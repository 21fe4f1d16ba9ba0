import TgGate.HttpHostCalls
import TgGate.HttpHostRuns

namespace TgGate

open Library

/-!
# How a start of the HTTP host ends

The startup flags belong to the latest server: they are reset when it is made,
behind the join of the thread of the server before it.  So `start` reports
success only for a server that has called back, and after a failure neither a
server nor its thread is left.
-/

/-- Nothing listens for the service, as far as it knows. -/
def HostPhase.halted : HostPhase → Bool
  | .loading | .checking | .preparing | .spawning | .waiting
  | .failing _ | .accepting | .stopping _ .start
  | .stopping _ (.failure _) => true
  | .idle | .stopping _ (.service _) | .clearing _ => false

/-- The error that `SimpleWebHttpHost::start` is about to return. -/
def HostPhase.error? : HostPhase → Option Bytes
  | .stopping _ (.failure error) | .failing error => some error
  | .idle | .stopping _ (.service _) | .stopping _ .start | .clearing _
  | .loading | .checking | .preparing | .spawning | .waiting
  | .accepting => none

/-- A stop returns the error of the phase behind it. -/
@[simp] theorem HostPhase.error?_stopping
    (point : HostStopPhase)
    (after : AfterHostStop) :
    (HostPhase.stopping point after).error? = after.phase.error? := by
  cases after <;> rfl

@[simp] theorem HostPhase.halted_stopping
    (point : HostStopPhase)
    (after : AfterHostStop) :
    (HostPhase.stopping point after).halted = after.phase.halted := by
  cases after <;> rfl

theorem AfterHostStop.phase_ne_accepting
    (after : AfterHostStop) :
    after.phase ≠ .accepting := by
  cases after <;> rintro ⟨⟩

/-- The time for a server was up before it had called back or failed. -/
def TimedOut (calls : List HttpHostCall) (server : Nat) : Prop :=
  ∃ first supply rest,
    calls = first ++ .operator supply :: rest ∧
      supply.timedOut = true ∧
        (httpHostThreads.state first).operator = .waiting ∧
          (httpHostThreads.state first).startupFinished = false ∧
            (httpHostThreads.state first).server = some server

/-- What timed out stays so while the run goes on. -/
theorem TimedOut.snoc
    {calls : List HttpHostCall}
    {server : Nat}
    (timedOut : TimedOut calls server)
    (call : HttpHostCall) :
    TimedOut (calls ++ [call]) server := by
  obtain ⟨first, supply, rest, rfl, late⟩ := timedOut
  exact ⟨first, supply, rest ++ [call], by simp, late⟩

/-- Why the HTTP host did not start. -/
inductive StartFailure
    (configuration : McpHostConfiguration)
    (server : Nat)
    (events : List HttpHostEvent)
    (late : Nat → Prop) : Bytes → Prop where
  | options
      {error : Bytes}
      (refusal :
        HttpHostThreads.optionsError?
            (McpHost.hostOptions configuration) =
          some error) :
      StartFailure configuration server events late error
  /-- The server threw; an exception without a text is given one. -/
  | threw
      {what error : Bytes}
      (threw : .threw server what ∈ events)
      (isText :
        error =
          if what = [] then
            bytes "HTTP host failed to start"
          else
            what) :
      StartFailure configuration server events late error
  | late
      (timedOut : late server) :
      StartFailure configuration server events late
        (bytes "HTTP host did not start within 5 seconds")

theorem StartFailure.mono
    {configuration : McpHostConfiguration}
    {server : Nat}
    {events : List HttpHostEvent}
    {late later : Nat → Prop}
    {error : Bytes}
    (failure : StartFailure configuration server events late error)
    (event : HttpHostEvent)
    (mono : ∀ server, late server → later server) :
    StartFailure configuration server (events ++ [event]) later error := by
  cases failure with
  | options refusal =>
      exact .options refusal
  | threw threw isText =>
      exact .threw (List.mem_append_left _ threw) isText
  | late timedOut =>
      exact .late (mono _ timedOut)

namespace HttpHostThreads

/-- The flags and the phases agree with what the latest server did. -/
structure Explained
    (threads : HttpHostThreads)
    (events : List HttpHostEvent)
    (late : Nat → Prop) : Prop where
  calledBack :
    threads.startupOk = true →
    .calledBack (threads.servers - 1) ∈ events
  reported :
    threads.startupFinished = true →
    threads.startupOk = false →
    .threw (threads.servers - 1) threads.startupError ∈ events
  failing :
    ∀ server what,
      threads.thread = some (.failing server what) →
      .threw server what ∈ events
  accepted :
    threads.operator = .accepting → threads.startupOk = true
  failed :
    ∀ error,
      threads.operator.error? = some error →
      StartFailure threads.host.configuration (threads.servers - 1)
        events late error
  halted :
    threads.operator.halted = true → threads.host.running = false

section Explanation

variable {before after threads : HttpHostThreads}
variable {events : List HttpHostEvent}
variable {late later : Nat → Prop}

/-- What has been shown stays shown. -/
theorem Explained.mono
    (explained : threads.Explained events late)
    (event : HttpHostEvent)
    (mono : ∀ server, late server → later server) :
    threads.Explained (events ++ [event]) later where
  calledBack ok := List.mem_append_left _ (explained.calledBack ok)
  reported finished notOk :=
    List.mem_append_left _ (explained.reported finished notOk)
  failing server what here :=
    List.mem_append_left _ (explained.failing server what here)
  accepted := explained.accepted
  failed error here := (explained.failed error here).mono event mono
  halted := explained.halted

/-- The operator's thread goes on; nothing else changes. -/
theorem Explained.movesOn
    {phase : HostPhase}
    (explained : before.Explained events late)
    (accepted : phase = .accepting → before.startupOk = true)
    (failed :
      ∀ error,
        phase.error? = some error →
        StartFailure before.host.configuration (before.servers - 1)
          events late error)
    (halted : phase.halted = true → before.host.running = false) :
    (before.operatorAt phase).Explained events late :=
  ⟨explained.calledBack, explained.reported, explained.failing, accepted,
    failed, halted⟩

/-- The operator's thread goes on with the error and the flag it has. -/
theorem Explained.keepsOn
    {phase : HostPhase}
    (explained : before.Explained events late)
    (unaccepted : phase ≠ .accepting)
    (sameError : phase.error? = before.operator.error?)
    (sameHalted : phase.halted = before.operator.halted) :
    (before.operatorAt phase).Explained events late := by
  refine explained.movesOn ?_ ?_ ?_
  · intro impossible
    exact absurd impossible unaccepted
  · intro error isError
    exact explained.failed error (sameError.symm.trans isError)
  · intro isHalted
    exact explained.halted (sameHalted.symm.trans isHalted)

/-- The operator's thread goes on and changes the service. -/
theorem Explained.changesHost
    {host : McpHost}
    {phase : HostPhase}
    (explained : before.Explained events late)
    (unaccepted : phase ≠ .accepting)
    (unfailed : phase.error? = none)
    (halted : phase.halted = true → host.running = false) :
    { before with host := host, operator := phase }.Explained events late where
  calledBack := explained.calledBack
  reported := explained.reported
  failing := explained.failing
  accepted impossible := absurd impossible unaccepted
  failed _ impossible := by
    rw [unfailed] at impossible
    cases impossible
  halted := halted

/-- The thread of the server comes to another part. -/
theorem Explained.threadAt
    {thread? : Option ServerThread}
    (explained : before.Explained events late)
    (failing :
      ∀ server what,
        thread? = some (.failing server what) →
        .threw server what ∈ events) :
    { before with thread := thread? }.Explained events late :=
  ⟨explained.calledBack, explained.reported, failing, explained.accepted,
    explained.failed, explained.halted⟩

theorem explained_step
    {call : HttpHostCall}
    {event : HttpHostEvent}
    (explained : before.Explained events late)
    (sound : before.Sound)
    (mono : ∀ server, late server → later server)
    (own :
      ∀ supply server,
        call = .operator supply →
        supply.timedOut = true →
        before.operator = .waiting →
        before.startupFinished = false →
        before.server = some server → later server)
    (step : before.HostStep call after event) :
    after.Explained (events ++ [event]) later := by
  have known := explained.mono event mono
  cases step with
  | idles =>
      exact known
  | enters here =>
      exact known.movesOn (by rintro ⟨⟩) (by rintro _ ⟨⟩) (by rintro ⟨⟩)
  | closes here =>
      exact known.keepsOn (by rintro ⟨⟩)
        (by simp only [here, HostPhase.error?_stopping])
        (by simp only [here, HostPhase.halted_stopping])
  | @joins rest here ended =>
      have moved :
          (before.operatorAt (.stopping .resetting rest)).Explained
            (events ++ [.nothing]) later :=
        known.keepsOn (by rintro ⟨⟩)
          (by simp only [here, HostPhase.error?_stopping])
          (by simp only [here, HostPhase.halted_stopping])
      exact moved.threadAt (by rintro _ _ ⟨⟩)
  | @resets rest here =>
      have moved :
          (before.operatorAt rest.phase).Explained
            (events ++ [.nothing]) later :=
        known.keepsOn rest.phase_ne_accepting
          (by simp only [here, HostPhase.error?_stopping])
          (by simp only [here, HostPhase.halted_stopping])
      exact ⟨moved.calledBack, moved.reported, moved.failing,
        moved.accepted, moved.failed, moved.halted⟩
  | clears | stops =>
      exact known.changesHost (by rintro ⟨⟩) rfl fun _ => rfl
  | ends here isLocal =>
      exact known.changesHost (by rintro ⟨⟩) rfl (by rintro ⟨⟩)
  | installs here =>
      exact known.changesHost (by rintro ⟨⟩) rfl fun _ =>
        known.halted (by rw [here]; rfl)
  | refuses here refusal =>
      refine known.movesOn (by rintro ⟨⟩) ?_ fun _ =>
        known.halted (by rw [here]; rfl)
      rintro error ⟨⟩
      exact .options refusal
  | restarts here =>
      exact known.movesOn (by rintro ⟨⟩) (by rintro _ ⟨⟩) fun _ =>
        known.halted (by rw [here]; rfl)
  | prepares here =>
      have gone := sound.joined (by rw [here]; rfl)
      exact {
        calledBack := fun impossible => by cases impossible
        reported := fun impossible => by cases impossible
        failing := fun server what impossible => by
          simp only [prepare, gone] at impossible
          cases impossible
        accepted := fun impossible => by cases impossible
        failed := fun _ impossible => by cases impossible
        halted := fun _ => known.halted (by rw [here]; rfl) }
  | spawns here =>
      have moved :
          (before.operatorAt .waiting).Explained (events ++ [.nothing])
            later :=
        known.movesOn (by rintro ⟨⟩) (by rintro _ ⟨⟩) fun _ =>
          known.halted (by rw [here]; rfl)
      refine moved.threadAt ?_
      intro server what impossible
      cases isServer : before.server <;>
        rw [isServer] at impossible <;> cases impossible
  | spawnFails here =>
      exact known.movesOn (by rintro ⟨⟩) (by rintro _ ⟨⟩) (by rintro ⟨⟩)
  | accepts here ok =>
      exact known.movesOn (fun _ => ok) (by rintro _ ⟨⟩) fun _ =>
        known.halted (by rw [here]; rfl)
  | rejects here finished notOk =>
      refine known.movesOn (by rintro ⟨⟩) ?_ fun _ =>
        known.halted (by rw [here]; rfl)
      rintro error ⟨⟩
      exact .threw (known.reported finished notOk) rfl
  | timesOut here label timedOut unfinished =>
      have isLaunched := sound.launched (by rw [here]; rfl)
      obtain ⟨server, isServer⟩ := Option.isSome_iff_exists.mp isLaunched
      have isLate := own _ server label timedOut here unfinished isServer
      rw [sound.latest server isServer] at isLate
      refine known.movesOn (by rintro ⟨⟩) ?_ fun _ =>
        known.halted (by rw [here]; rfl)
      rintro error ⟨⟩
      exact .late isLate
  | fails | starts =>
      exact known.changesHost (by rintro ⟨⟩) rfl (by rintro ⟨⟩)
  | @callsBack server here =>
      have isLatest := sound.latest server (sound.served _ here)
      exact {
        calledBack := fun _ => by
          rw [← isLatest]
          exact List.mem_append_right _ List.mem_cons_self
        reported := fun _ impossible => by cases impossible
        failing := known.failing
        accepted := fun _ => rfl
        failed := known.failed
        halted := known.halted }
  | throws =>
      refine known.threadAt ?_
      rintro _ _ ⟨⟩
      exact List.mem_append_right _ List.mem_cons_self
  | serverReturns =>
      exact known.threadAt (by rintro _ _ ⟨⟩)
  | @reports server what here =>
      have isLatest := sound.latest server (sound.served _ here)
      have threw := known.failing server what here
      exact {
        calledBack := known.calledBack
        reported := fun _ _ => by
          rw [← isLatest]
          exact threw
        failing := by rintro _ _ ⟨⟩
        accepted := known.accepted
        failed := known.failed
        halted := known.halted }
  | requests =>
      exact ⟨known.calledBack, known.reported, known.failing,
        known.accepted, known.failed, known.halted⟩

end Explanation

end HttpHostThreads

theorem hostExplained_run
    {calls : List HttpHostCall}
    (keeps : ServerKeepsItsContract calls) :
    (httpHostThreads.state calls).Explained
      (shownEvents (httpHostThreads.history calls))
      (TimedOut calls) := by
  induction calls using List.reverseRecOn with
  | nil =>
      exact {
        calledBack := fun impossible => by cases impossible
        reported := fun impossible => by cases impossible
        failing := fun _ _ impossible => by cases impossible
        accepted := fun impossible => by cases impossible
        failed := fun _ impossible => by cases impossible
        halted := fun _ => rfl }
  | append_singleton calls call inductionHypothesis =>
      rw [Machine.state_snoc, Machine.history_snoc, shownEvents,
        List.map_append]
      refine HttpHostThreads.explained_step
        (inductionHypothesis keeps.shorter) (hostSound_run keeps.shorter)
        (fun _ timedOut => timedOut.snoc call) ?_
        (HttpHostThreads.hostStep (keeps calls call (List.prefix_refl _)))
      rintro supply server rfl timedOut here unfinished isServer
      exact ⟨calls, supply, [], rfl, timedOut, here, unfinished, isServer⟩

/-- What a plan comes to that does not turn to the HTTP host. -/
def StartPlan.result? : StartPlan → Option StartResult
  | .throws thrown => some (.error thrown)
  | .fails error => some (.ok (.error error))
  | .disabled => some (.ok (.ok ()))
  | .launches _ _ => none

/-- What has become of the HTTP host when a step returns from `start`. -/
inductive StartEnded
    (calls : List HttpHostCall)
    (call : HttpHostCall)
    (after : HttpHostThreads) : StartResult → Prop where
  /-- The server that was made has called back, and its thread is there. -/
  | started
      {server : Nat}
      (serves : after.server = some server)
      (hasThread : after.thread.isSome = true)
      (calledBack :
        .calledBack server ∈ shownEvents (httpHostThreads.history calls))
      (running : after.host.running = true) :
      StartEnded calls call after (.ok (.ok ()))
  /-- The HTTP host did not start. -/
  | failed
      {error : Bytes}
      (failure :
        StartFailure after.host.configuration (after.servers - 1)
          (shownEvents (httpHostThreads.history calls)) (TimedOut calls)
          error)
      (gone : after.server = none ∧ after.thread = none)
      (cleared : after.host.clients = [])
      (halted : after.host.running = false) :
      StartEnded calls call after (.ok (.error error))
  /-- `start` ended with the plan it had made, before the HTTP host. -/
  | unlaunched
      {supply : HostSupply}
      {result : StartResult}
      (label : call = .operator supply)
      (loaded : (httpHostThreads.state calls).operator = .loading)
      (ended : supply.plan.result? = some result)
      (gone : after.server = none ∧ after.thread = none)
      (cleared : after.host.clients = [])
      (halted : after.host.running = false) :
      StartEnded calls call after result

namespace HttpHostThreads

/-- A plan that ends `start` keeps the clients and the flag as they are. -/
theorem carryOut_of_isLocal
    {plan : StartPlan}
    (isLocal :
      ∀ configuration clients,
        plan ≠ .launches configuration clients)
    (host : McpHost) :
    (host.carryOut .started plan).1.clients = host.clients ∧
      (host.carryOut .started plan).1.running = host.running ∧
        ∀ result,
          (host.carryOut .started plan).2 = .start result →
          plan.result? = some result := by
  cases plan with
  | launches configuration clients =>
      exact absurd rfl (isLocal configuration clients)
  | throws | fails | disabled =>
      refine ⟨rfl, rfl, ?_⟩
      rintro result ⟨⟩
      rfl

theorem startEnded_of_step
    {calls : List HttpHostCall}
    {call : HttpHostCall}
    {after : HttpHostThreads}
    {event : HttpHostEvent}
    {result : StartResult}
    (sound : (httpHostThreads.state calls).Sound)
    (explained :
      (httpHostThreads.state calls).Explained
        (shownEvents (httpHostThreads.history calls)) (TimedOut calls))
    (step : (httpHostThreads.state calls).HostStep call after event)
    (returned : event = .returned (.start result)) :
    StartEnded calls call after result := by
  cases step with
  | @ends supply here label isLocal =>
      obtain ⟨sameClients, sameRunning, ended⟩ :=
        carryOut_of_isLocal isLocal (httpHostThreads.state calls).host
      have follows := (follows_run calls).1
      rw [FollowsLog, here] at follows
      have isResult := HttpHostEvent.returned.inj returned
      refine .unlaunched label here (ended result isResult)
        ⟨sound.serverless (by rw [here]; rfl),
          sound.joined (by rw [here]; rfl)⟩ ?_ ?_
      · refine sameClients.trans ?_
        rw [follows.2]
        rfl
      · exact sameRunning.trans (explained.halted (by rw [here]; rfl))
  | fails here =>
      cases returned
      exact .failed (explained.failed _ (by rw [here]; rfl))
        ⟨sound.serverless (by rw [here]; rfl),
          sound.joined (by rw [here]; rfl)⟩ rfl
        (explained.halted (by rw [here]; rfl))
  | starts here =>
      cases returned
      have hasServer := sound.launched (by rw [here]; rfl)
      obtain ⟨server, isServer⟩ := Option.isSome_iff_exists.mp hasServer
      have called := explained.calledBack (explained.accepted here)
      rw [← sound.latest server isServer] at called
      exact .started isServer (sound.waited (.inr here)) called rfl
  | _ =>
      cases returned

end HttpHostThreads

/--
Whatever the server does within its contract and whenever `start` returns: after
success the server that was made for it has called back, after a failure of the
HTTP host neither a server nor a thread nor a client is left and the error is
the reason, and otherwise `start` has come to what its plan says, without
turning to the HTTP host and with nothing left of the host before it.
-/
theorem starts_end_as_their_server
    {calls : List HttpHostCall}
    {call : HttpHostCall}
    {result : StartResult}
    (keeps : ServerKeepsItsContract (calls ++ [call]))
    (returned :
      (httpHostThreads.step (httpHostThreads.state calls) call).2 =
        .returned (.start result)) :
    StartEnded calls call (httpHostThreads.state (calls ++ [call]))
      result := by
  rw [Machine.state_snoc]
  exact HttpHostThreads.startEnded_of_step (hostSound_run keeps.shorter)
    (hostExplained_run keeps.shorter)
    (HttpHostThreads.hostStep (keeps calls call (List.prefix_refl _)))
    returned

/-- The port is in use, and the operator's thread is about to return. -/
def portInUseCalls : List HttpHostCall :=
  launchingCalls ++ [.server (.throws (bytes "bind"))] ++
    (.server .reports :: List.replicate 4 (.operator {}))

theorem keeps_portInUseCalls : ServerKeepsItsContract portInUseCalls := by
  refine ServerKeepsItsContract.append ?_ (by decide)
  exact keeps_launchingCalls.concat rfl

theorem starts_end_as_their_server_portInUse :
    StartEnded portInUseCalls (.operator {})
      (httpHostThreads.state (portInUseCalls ++ [.operator {}]))
      (.ok (.error (bytes "bind"))) :=
  starts_end_as_their_server (keeps_portInUseCalls.append (by decide)) rfl

end TgGate
