import TgGate.HttpHostThreads

namespace TgGate

open Library

/-!
# Runs of the HTTP host

The operator's thread replaces what the request handlers read and makes a new
server only behind a join, when the thread of the last server is gone and its
requests have left.  `HostStep` lists the steps once, with their guards.
-/

namespace HttpHostThreads

/-- What a step does, and what it shows. -/
inductive HostStep
    (before : HttpHostThreads)
    (call : HttpHostCall) : HttpHostThreads → HttpHostEvent → Prop where
  | idles : HostStep before call before .nothing
  | enters
      {restarts : Bool}
      (here : before.operator = .idle) :
      HostStep before call
        (before.operatorAt (.stopping .closing (.service restarts)))
        .nothing
  | closes
      {after : AfterHostStop}
      (here : before.operator = .stopping .closing after) :
      HostStep before call (before.operatorAt (.stopping .joining after))
        .nothing
  | joins
      {after : AfterHostStop}
      (here : before.operator = .stopping .joining after)
      (ended :
        ∀ server, before.thread ≠ some (.running server)) :
      HostStep before call
        { before with
          thread := none
          operator := .stopping .resetting after }
        .nothing
  | resets
      {after : AfterHostStop}
      (here : before.operator = .stopping .resetting after) :
      HostStep before call
        { before with server := none, operator := after.phase } .nothing
  | clears
      (here : before.operator = .clearing true) :
      HostStep before call
        { before with host := before.host.stop, operator := .loading }
        .nothing
  | stops
      (here : before.operator = .clearing false) :
      HostStep before call
        { before with host := before.host.stop, operator := .idle }
        (.returned .stopped)
  | ends
      {supply : HostSupply}
      (here : before.operator = .loading)
      (label : call = .operator supply)
      (isLocal :
        ∀ configuration clients,
          supply.plan ≠ .launches configuration clients) :
      HostStep before call
        { before with
          host := (before.host.carryOut .started supply.plan).1
          operator := .idle }
        (.returned (before.host.carryOut .started supply.plan).2)
  | installs
      {configuration : McpHostConfiguration}
      {clients : List AuthenticatedClient}
      (here : before.operator = .loading) :
      HostStep before call
        { before with
          host := before.host.install configuration clients
          operator := .checking }
        .nothing
  | refuses
      {error : Bytes}
      (here : before.operator = .checking)
      (refusal :
        optionsError? (McpHost.hostOptions before.host.configuration) =
          some error) :
      HostStep before call (before.operatorAt (.failing error)) .nothing
  | restarts
      (here : before.operator = .checking) :
      HostStep before call (before.operatorAt (.stopping .closing .start))
        .nothing
  | prepares
      {serving : UInt64}
      (here : before.operator = .preparing) :
      HostStep before call (before.prepare serving) .nothing
  | spawns
      (here : before.operator = .spawning) :
      HostStep before call
        { before with
          thread := before.server.map .running
          operator := .waiting }
        .nothing
  | spawnFails
      (here : before.operator = .spawning) :
      HostStep before call { before with operator := .idle }
        (.returned .threw)
  | accepts
      (here : before.operator = .waiting)
      (ok : before.startupOk = true) :
      HostStep before call (before.operatorAt .accepting) .nothing
  | rejects
      (here : before.operator = .waiting)
      (finished : before.startupFinished = true)
      (notOk : before.startupOk = false) :
      HostStep before call
        (before.operatorAt
          (.stopping .closing (.failure before.reportedError)))
        .nothing
  | timesOut
      {supply : HostSupply}
      (here : before.operator = .waiting)
      (label : call = .operator supply)
      (timedOut : supply.timedOut = true)
      (unfinished : before.startupFinished = false) :
      HostStep before call
        (before.operatorAt
          (.stopping .closing
            (.failure
              (bytes "HTTP host did not start within 5 seconds"))))
        .nothing
  | fails
      {error : Bytes}
      (here : before.operator = .failing error) :
      HostStep before call
        { before with
          host := before.host.failStart error
          operator := .idle }
        (.returned (.start (.ok (.error error))))
  | starts
      (here : before.operator = .accepting) :
      HostStep before call
        { before with
          host := before.host.acceptStart
          operator := .idle }
        (.returned (.start (.ok (.ok ()))))
  | callsBack
      {server : Nat}
      (here : before.thread = some (.running server)) :
      HostStep before call
        { before with startupOk := true, startupFinished := true }
        (.calledBack server)
  | throws
      {server : Nat}
      {what : Bytes}
      (here : before.thread = some (.running server))
      (quiet : before.requests.dispatching = []) :
      HostStep before call
        { before with thread := some (.failing server what) }
        (.threw server what)
  | serverReturns
      {server : Nat}
      (here : before.thread = some (.running server))
      (quiet : before.requests.dispatching = []) :
      HostStep before call { before with thread := some (.ended server) }
        .nothing
  | reports
      {server : Nat}
      {what : Bytes}
      (here : before.thread = some (.failing server what)) :
      HostStep before call
        { before with
          thread := some (.ended server)
          startupError := what
          startupFinished := true }
        .nothing
  | requests
      {dispatched : DispatchCall}
      (allowed :
        ∀ request,
          dispatched = .dispatch request →
          ∃ server, before.thread = some (.running server)) :
      HostStep before call (before.advanceRequest dispatched).1
        (before.advanceRequest dispatched).2

section Steps

variable {threads : HttpHostThreads}
variable {call : HttpHostCall}

theorem hostStep_advanceStop
    {point : HostStopPhase}
    {after : AfterHostStop}
    (here : threads.operator = .stopping point after) :
    threads.HostStep call (threads.advanceStop after point) .nothing := by
  cases point with
  | closing =>
      exact .closes here
  | joining =>
      simp only [advanceStop]
      cases thread : threads.thread with
      | none =>
          exact .joins here (by simp [thread])
      | some phase =>
          cases phase with
          | ended server =>
              exact .joins here (by simp [thread])
          | running | failing =>
              exact .idles
  | resetting =>
      exact .resets here

theorem hostStep_takePlan
    (here : threads.operator = .loading)
    (supply : HostSupply) :
    threads.HostStep (.operator supply) (threads.takePlan supply.plan).1
      (threads.takePlan supply.plan).2 := by
  have ends
      (isLocal :
        ∀ configuration clients,
          supply.plan ≠ .launches configuration clients) :=
    @HostStep.ends threads _ supply here rfl isLocal
  cases plan : supply.plan with
  | launches configuration clients =>
      exact .installs here
  | throws | fails | disabled =>
      rw [plan] at ends
      exact ends (fun _ _ impossible => by cases impossible)

theorem hostStep_awaitStartup
    (here : threads.operator = .waiting)
    (supply : HostSupply) :
    threads.HostStep (.operator supply)
      (threads.awaitStartup supply.timedOut) .nothing := by
  unfold awaitStartup
  cases finished : threads.startupFinished with
  | true =>
      cases ok : threads.startupOk with
      | true =>
          exact .accepts here ok
      | false =>
          exact .rejects here finished ok
  | false =>
      cases timedOut : supply.timedOut with
      | true =>
          exact .timesOut here rfl timedOut finished
      | false =>
          have same : threads.operatorAt .waiting = threads := by
            rw [operatorAt, ← here]
          simp only [Bool.false_eq_true, ↓reduceIte, same]
          exact .idles

theorem hostStep_advanceOperator
    {phase : HostPhase}
    (here : threads.operator = phase)
    (supply : HostSupply) :
    threads.HostStep (.operator supply)
      (threads.advanceOperator supply phase).1
      (threads.advanceOperator supply phase).2 := by
  cases phase with
  | idle =>
      exact .idles
  | stopping point after =>
      exact hostStep_advanceStop here
  | clearing restarts =>
      cases restarts with
      | true =>
          exact .clears here
      | false =>
          exact .stops here
  | loading =>
      exact hostStep_takePlan here supply
  | checking =>
      simp only [advanceOperator]
      cases refusal :
          optionsError? (McpHost.hostOptions threads.host.configuration)
        with
      | some error =>
          exact .refuses here refusal
      | none =>
          exact .restarts here
  | preparing =>
      exact .prepares here
  | spawning =>
      simp only [advanceOperator]
      cases supply.threadStarts with
      | true =>
          exact .spawns here
      | false =>
          exact .spawnFails here
  | waiting =>
      exact hostStep_awaitStartup here supply
  | failing error =>
      exact .fails here
  | accepting =>
      exact .starts here

theorem hostStep_advanceServer
    {move : ServerMove}
    (allowed : ServerMayTake threads (.server move)) :
    threads.HostStep (.server move) (threads.advanceServer move).1
      (threads.advanceServer move).2 := by
  cases thread : threads.thread with
  | none =>
      simp only [advanceServer, thread]
      exact .idles
  | some phase =>
      cases phase with
      | running server =>
          cases move with
          | callsBack =>
              have stepped :=
                @HostStep.callsBack threads (.server .callsBack) _ thread
              simpa only [advanceServer, thread] using stepped
          | throws what =>
              simp only [advanceServer, thread]
              exact .throws thread allowed
          | returns =>
              simp only [advanceServer, thread]
              exact .serverReturns thread allowed
          | reports =>
              simp only [advanceServer, thread]
              exact .idles
      | failing server what =>
          cases move with
          | reports =>
              simp only [advanceServer, thread]
              exact .reports thread
          | callsBack | throws | returns =>
              simp only [advanceServer, thread]
              exact .idles
      | ended server =>
          simp only [advanceServer, thread]
          exact .idles

/-- Every step that the server may take is one of these. -/
theorem hostStep
    (allowed : ServerMayTake threads call) :
    threads.HostStep call (httpHostThreads.step threads call).1
      (httpHostThreads.step threads call).2 := by
  have entered (restarts : Bool) :
      threads.HostStep call (threads.enter restarts) .nothing := by
    unfold enter
    cases here : threads.operator with
    | idle =>
        exact .enters here
    | _ =>
        exact .idles
  cases call with
  | enterStart =>
      exact entered true
  | enterStop =>
      exact entered false
  | operator supply =>
      exact hostStep_advanceOperator rfl supply
  | server move =>
      exact hostStep_advanceServer allowed
  | request call =>
      refine .requests fun request isDispatch => ?_
      subst isDispatch
      exact allowed

end Steps

/-!
## The server and its thread

The object of a server outlives its thread, and requests are in `dispatch` only
while the thread runs.
-/

end HttpHostThreads

/-- The operator's thread has joined the last server's thread. -/
def HostPhase.joined : HostPhase → Bool
  | .stopping .resetting _ | .clearing _ | .loading | .checking
  | .preparing | .spawning | .failing _ => true
  | .idle | .stopping .closing _ | .stopping .joining _ | .waiting
  | .accepting => false

/-- The last server is gone, and no new one has been made. -/
def HostPhase.serverless : HostPhase → Bool
  | .clearing _ | .loading | .checking | .preparing | .failing _ => true
  | .idle | .stopping _ _ | .spawning | .waiting | .accepting => false

/-- A new server has been made for the start in progress. -/
def HostPhase.launched : HostPhase → Bool
  | .spawning | .waiting | .accepting => true
  | .idle | .stopping _ _ | .clearing _ | .loading | .checking
  | .preparing | .failing _ => false

namespace HttpHostThreads

/-- What holds of the server, its thread and its requests. -/
structure Sound (threads : HttpHostThreads) : Prop where
  joined : threads.operator.joined = true → threads.thread = none
  serverless :
    threads.operator.serverless = true → threads.server = none
  launched :
    threads.operator.launched = true → threads.server.isSome = true
  /-- Only the latest server is ever there. -/
  latest :
    ∀ server,
      threads.server = some server → server = threads.servers - 1
  waited :
    threads.operator = .waiting ∨ threads.operator = .accepting →
    threads.thread.isSome = true
  served :
    ∀ thread,
      threads.thread = some thread →
      threads.server = some thread.server
  handled :
    threads.requests.dispatching ≠ [] →
    ∃ server, threads.thread = some (.running server)
  limited :
    threads.requests.Limited threads.requests.maximumConnections
      threads.requests.threads
  configured :
    threads.server.isSome = true →
    threads.requests.maximumConnections =
      threads.host.configuration.maximumConnections

section Soundness

variable {before after : HttpHostThreads}
variable {call : HttpHostCall}

/-- Behind a join no request is in `dispatch`. -/
theorem Sound.quiet
    (sound : before.Sound)
    (unserved : ∀ server, before.thread ≠ some (.running server)) :
    before.requests.dispatching = [] := by
  by_contra busy
  obtain ⟨server, running⟩ := sound.handled busy
  exact unserved server running

theorem Sound.quiet_of_joined
    (sound : before.Sound)
    (joined : before.operator.joined = true) :
    before.requests.dispatching = [] := by
  refine sound.quiet fun server running => ?_
  rw [sound.joined joined] at running
  cases running

/-- The operator's thread goes on; nothing else changes. -/
theorem Sound.movesOn
    {phase : HostPhase}
    (sound : before.Sound)
    (joined : phase.joined = true → before.operator.joined = true)
    (serverless :
      phase.serverless = true → before.operator.serverless = true)
    (launched :
      phase.launched = true → before.operator.launched = true)
    (waited :
      phase = .waiting ∨ phase = .accepting →
      before.operator = .waiting ∨ before.operator = .accepting) :
    (before.operatorAt phase).Sound where
  joined isJoined := sound.joined (joined isJoined)
  serverless isServerless := sound.serverless (serverless isServerless)
  launched isLaunched := sound.launched (launched isLaunched)
  latest := sound.latest
  waited isWaiting := sound.waited (waited isWaiting)
  served := sound.served
  handled := sound.handled
  limited := sound.limited
  configured := sound.configured

/-- Without a server the service may be changed. -/
theorem Sound.changesHost
    {host : McpHost}
    {phase : HostPhase}
    (sound : before.Sound)
    (here : before.operator.serverless = true)
    (joined : before.operator.joined = true)
    (unlaunched : phase.launched = false) :
    { before with host := host, operator := phase }.Sound where
  joined _ := sound.joined joined
  serverless _ := sound.serverless here
  launched isLaunched := by
    rw [unlaunched] at isLaunched
    cases isLaunched
  latest := sound.latest
  waited isWaiting := by
    rcases isWaiting with rfl | rfl <;> cases unlaunched
  served := sound.served
  handled := sound.handled
  limited := sound.limited
  configured isServed := by
    rw [sound.serverless here] at isServed
    cases isServed

/-- The thread of the server comes to its end. -/
theorem Sound.threadEnds
    {thread next : ServerThread}
    (sound : before.Sound)
    (here : before.thread = some thread)
    (same : next.server = thread.server)
    (quiet : before.requests.dispatching = []) :
    { before with thread := some next }.Sound where
  joined isJoined := by
    have gone := sound.joined isJoined
    rw [here] at gone
    cases gone
  serverless := sound.serverless
  launched := sound.launched
  latest := sound.latest
  waited _ := rfl
  served := by
    rintro _ ⟨⟩
    rw [same]
    exact sound.served thread here
  handled busy := absurd quiet busy
  limited := sound.limited
  configured := sound.configured

theorem sound_prepare
    (sound : before.Sound)
    (here : before.operator = .preparing)
    (serving : UInt64) :
    (before.prepare serving).Sound := by
  have isJoined : before.operator.joined = true := by rw [here]; rfl
  have gone := sound.joined isJoined
  have quiet := sound.quiet_of_joined isJoined
  exact {
    joined := fun _ => gone
    serverless := fun impossible => by cases impossible
    launched := fun _ => rfl
    latest := by
      rintro _ ⟨⟩
      rfl
    waited := fun impossible => by
      rcases impossible with impossible | impossible <;> cases impossible
    served := fun thread isThread => by
      rw [prepare, gone] at isThread
      cases isThread
    handled := fun busy => absurd quiet busy
    limited := by
      refine ⟨rfl, rfl, ?_, ?_, ?_⟩
      · simp [prepare, quiet]
      · simp [prepare, quiet, SimpleWebHttpHost.counted]
      · simp [prepare, quiet, SimpleWebHttpHost.admitted]
    configured := fun _ => rfl }

theorem sound_spawn
    (sound : before.Sound)
    (here : before.operator = .spawning) :
    { before with
      thread := before.server.map .running
      operator := .waiting }.Sound := by
  have isJoined : before.operator.joined = true := by rw [here]; rfl
  have isLaunched := sound.launched (by rw [here]; rfl)
  obtain ⟨server, isServer⟩ := Option.isSome_iff_exists.mp isLaunched
  exact {
    joined := fun impossible => by cases impossible
    serverless := fun impossible => by cases impossible
    launched := fun _ => isLaunched
    latest := sound.latest
    waited := fun _ => by rw [isServer]; rfl
    served := fun thread isThread => by
      rw [isServer] at isThread
      obtain rfl := Option.some.inj isThread
      exact isServer
    handled := fun busy =>
      absurd (sound.quiet_of_joined isJoined) busy
    limited := sound.limited
    configured := sound.configured }

/-- A request enters `dispatch` or is one that was there. -/
theorem sound_request
    {call : DispatchCall}
    (sound : before.Sound)
    (allowed :
      ∀ request,
        call = .dispatch request →
        ∃ server, before.thread = some (.running server)) :
    (before.advanceRequest call).1.Sound := by
  have taken :=
    SimpleWebHttpHost.dispatchStep before.requests.maximumConnections
      before.requests.threads before.requests call
  have limited := SimpleWebHttpHost.limited_step sound.limited taken
  exact {
    joined := sound.joined
    serverless := sound.serverless
    launched := sound.launched
    latest := sound.latest
    waited := sound.waited
    served := sound.served
    handled := fun busy => by
      cases call with
      | dispatch request =>
          exact allowed request rfl
      | handled index | advance index =>
          refine sound.handled fun quiet => busy ?_
          simp only [advanceRequest, dispatchMachine, quiet,
            List.getElem?_nil]
    limited := by
      have maximum := limited.maximum
      have capacity := limited.capacity
      simp only [advanceRequest]
      rw [maximum, capacity]
      exact limited
    configured := fun isServed =>
      limited.maximum.trans (sound.configured isServed) }

/-- Every step keeps server, thread and requests together. -/
theorem sound_step
    {event : HttpHostEvent}
    (sound : before.Sound)
    (step : before.HostStep call after event) :
    after.Sound := by
  cases step with
  | idles =>
      exact sound
  | enters here | closes here | rejects here | timesOut here
  | restarts here =>
      exact sound.movesOn (by rintro ⟨⟩) (by rintro ⟨⟩) (by rintro ⟨⟩)
        (by rintro (⟨⟨⟩⟩ | ⟨⟨⟩⟩))
  | joins here ended =>
      have quiet := sound.quiet ended
      exact {
        joined := fun _ => rfl
        serverless := fun impossible => by cases impossible
        launched := fun impossible => by cases impossible
        latest := sound.latest
        waited := fun impossible => by
          rcases impossible with impossible | impossible <;>
            cases impossible
        served := fun _ impossible => by cases impossible
        handled := fun busy => absurd quiet busy
        limited := sound.limited
        configured := sound.configured }
  | @resets rest here =>
      have gone := sound.joined (by rw [here]; rfl)
      exact {
        joined := fun _ => gone
        serverless := fun _ => rfl
        launched := fun impossible => by
          cases rest <;> cases impossible
        latest := fun _ impossible => by cases impossible
        waited := fun impossible => by
          cases rest <;> rcases impossible with impossible | impossible <;>
            cases impossible
        served := fun thread isThread => by
          rw [gone] at isThread
          cases isThread
        handled := sound.handled
        limited := sound.limited
        configured := fun impossible => by cases impossible }
  | clears here | stops here | ends here | installs here
  | fails here =>
      exact sound.changesHost (by rw [here]; rfl) (by rw [here]; rfl) rfl
  | refuses here =>
      refine sound.movesOn ?_ ?_ (by rintro ⟨⟩) (by rintro (⟨⟨⟩⟩ | ⟨⟨⟩⟩)) <;>
        rw [here] <;> exact fun _ => rfl
  | prepares here =>
      exact sound_prepare sound here _
  | spawns here =>
      exact sound_spawn sound here
  | spawnFails here =>
      exact sound.movesOn (by rintro ⟨⟩) (by rintro ⟨⟩) (by rintro ⟨⟩)
        (by rintro (⟨⟨⟩⟩ | ⟨⟨⟩⟩))
  | accepts here =>
      refine sound.movesOn (by rintro ⟨⟩) (by rintro ⟨⟩) ?_ fun _ => .inl here
      rw [here]
      exact fun _ => rfl
  | starts here =>
      have idle : (before.operatorAt .idle).Sound :=
        sound.movesOn (by rintro ⟨⟩) (by rintro ⟨⟩) (by rintro ⟨⟩)
        (by rintro (⟨⟨⟩⟩ | ⟨⟨⟩⟩))
      exact ⟨idle.joined, idle.serverless, idle.launched, idle.latest,
        idle.waited, idle.served, idle.handled, idle.limited,
        idle.configured⟩
  | callsBack =>
      exact ⟨sound.joined, sound.serverless, sound.launched, sound.latest,
        sound.waited, sound.served, sound.handled, sound.limited,
        sound.configured⟩
  | throws here quiet | serverReturns here quiet =>
      exact sound.threadEnds here rfl quiet
  | reports here =>
      have quiet := sound.quiet fun server running => by
        rw [here] at running
        cases running
      have ended :=
        @Sound.threadEnds _ _ (.ended _) sound here rfl quiet
      exact ⟨ended.joined, ended.serverless, ended.launched, ended.latest,
        ended.waited, ended.served, ended.handled, ended.limited,
        ended.configured⟩
  | requests allowed =>
      exact sound_request sound allowed

/-- While the thread of a server runs, nobody changes what it reads. -/
theorem service_of_step
    {event : HttpHostEvent}
    {server : Nat}
    (sound : before.Sound)
    (running : before.thread = some (.running server))
    (step : before.HostStep call after event) :
    after.host.service = before.host.service := by
  have unjoined (joined : before.operator.joined = true) : False := by
    rw [sound.joined joined] at running
    cases running
  cases step with
  | clears here | stops here | ends here | installs here | fails here =>
      exact (unjoined (by rw [here]; rfl)).elim
  | _ =>
      rfl

end Soundness

end HttpHostThreads

/-- The contract holds for a run that stops earlier. -/
theorem ServerKeepsItsContract.shorter
    {calls : List HttpHostCall}
    {call : HttpHostCall}
    (keeps : ServerKeepsItsContract (calls ++ [call])) :
    ServerKeepsItsContract calls :=
  fun first next isPrefix =>
    keeps first next (isPrefix.trans (List.prefix_append _ _))

theorem ServerKeepsItsContract.concat
    {calls : List HttpHostCall}
    {call : HttpHostCall}
    (keeps : ServerKeepsItsContract calls)
    (allowed : ServerMayTake (httpHostThreads.state calls) call) :
    ServerKeepsItsContract (calls ++ [call]) := by
  intro first next isPrefix
  rcases List.prefix_concat_iff.mp isPrefix with same | earlier
  · obtain ⟨rfl, isLast⟩ := List.append_inj' same rfl
    cases isLast
    exact allowed
  · exact keeps first next earlier

/-- A step about which the contract says nothing. -/
def HttpHostCall.isFree : HttpHostCall → Bool
  | .request (.dispatch _) | .server (.throws _) | .server .returns =>
      false
  | _ => true

theorem serverMayTake_of_isFree
    {threads : HttpHostThreads}
    {call : HttpHostCall}
    (isFree : call.isFree = true) :
    ServerMayTake threads call := by
  cases call with
  | request call =>
      cases call with
      | dispatch =>
          cases isFree
      | handled | advance =>
          trivial
  | server move =>
      cases move with
      | throws | returns =>
          cases isFree
      | callsBack | reports =>
          trivial
  | enterStart | enterStop | operator =>
      trivial

theorem ServerKeepsItsContract.append
    {calls later : List HttpHostCall}
    (keeps : ServerKeepsItsContract calls)
    (free : ∀ call ∈ later, call.isFree = true) :
    ServerKeepsItsContract (calls ++ later) := by
  induction later generalizing calls with
  | nil =>
      rwa [List.append_nil]
  | cons call later inductionHypothesis =>
      rw [List.append_cons]
      obtain ⟨isFree, free⟩ := List.forall_mem_cons.mp free
      exact inductionHypothesis
        (keeps.concat (serverMayTake_of_isFree isFree)) free

theorem serverKeepsItsContract_nil : ServerKeepsItsContract [] := by
  intro first call isPrefix
  have empty := List.prefix_nil.mp isPrefix
  cases first <;> cases empty

/-- What a run shows, in order. -/
def shownEvents
    (history : List (Event HttpHostCall HttpHostEvent)) :
    List HttpHostEvent :=
  history.map Event.output

/-- An invariant of the steps that the server may take holds in every run. -/
theorem httpHost_invariant
    (Invariant : HttpHostThreads → List HttpHostEvent → Prop)
    (initially : Invariant {} [])
    (preserved :
      ∀ {before call after events event},
        Invariant before events →
        HttpHostThreads.HostStep before call after event →
        Invariant after (events ++ [event]))
    {calls : List HttpHostCall}
    (keeps : ServerKeepsItsContract calls) :
    Invariant (httpHostThreads.state calls)
      (shownEvents (httpHostThreads.history calls)) := by
  refine httpHostThreads.invariant_of_step ServerKeepsItsContract
    (fun _ threads history => Invariant threads (shownEvents history))
    ServerKeepsItsContract.shorter initially ?_ keeps
  intro calls call keeps invariant
  rw [shownEvents, List.map_append]
  exact preserved invariant
    (HttpHostThreads.hostStep (keeps calls call (List.prefix_refl _)))

theorem hostSound_initial : ({} : HttpHostThreads).Sound where
  joined _ := rfl
  serverless _ := rfl
  launched impossible := by cases impossible
  latest _ impossible := by cases impossible
  waited impossible := by
    rcases impossible with impossible | impossible <;> cases impossible
  served _ impossible := by cases impossible
  handled busy := absurd rfl busy
  limited := ⟨rfl, rfl, Nat.zero_le _, rfl, Nat.zero_le _⟩
  configured impossible := by cases impossible

theorem hostSound_run
    {calls : List HttpHostCall}
    (keeps : ServerKeepsItsContract calls) :
    (httpHostThreads.state calls).Sound :=
  httpHost_invariant (fun threads _ => threads.Sound) hostSound_initial
    (fun sound step => HttpHostThreads.sound_step sound step) keeps

/--
Whatever the server does within its contract, no step changes what the request
handlers read while a request is in `dispatch`, and at most as many handlers run
as the installed configuration allows.
-/
theorem requests_keep_their_service
    {calls : List HttpHostCall}
    {call : HttpHostCall}
    (keeps : ServerKeepsItsContract (calls ++ [call]))
    (busy : (httpHostThreads.state calls).requests.dispatching ≠ []) :
    (httpHostThreads.state (calls ++ [call])).host.service =
        (httpHostThreads.state calls).host.service ∧
      (httpHostThreads.state calls).requests.handling ≤
        (httpHostThreads.state
          calls).host.configuration.maximumConnections.toNat := by
  have sound := hostSound_run keeps.shorter
  obtain ⟨server, running⟩ := sound.handled busy
  constructor
  · rw [Machine.state_snoc]
    exact HttpHostThreads.service_of_step sound running
      (HttpHostThreads.hostStep (keeps calls call (List.prefix_refl _)))
  · have isServed := sound.served _ running
    rw [← sound.configured (by rw [isServed]; rfl)]
    exact Nat.le_trans
      (SimpleWebHttpHost.handling_le_admitted _) sound.limited.limit

/-- A configuration that the HTTP host accepts. -/
def localConfiguration : McpHostConfiguration where
  enabled := true
  port := 8765

/-- The operator starts the host up to the thread of its server. -/
def launchingCalls : List HttpHostCall :=
  .enterStart :: List.replicate 4 (.operator {}) ++
    [.operator { plan := .launches localConfiguration [] }] ++
    List.replicate 6 (.operator {})

/-- The server calls back, and a request is in `dispatch`. -/
def busyCalls : List HttpHostCall :=
  launchingCalls ++
    [.server .callsBack, .operator {}, .operator {}] ++
    [.request (.dispatch {
      method := bytes "POST"
      path := bytes "/mcp"
      headers := []
      body := [] })]

theorem keeps_launchingCalls : ServerKeepsItsContract launchingCalls :=
  serverKeepsItsContract_nil.append (by decide)

theorem keeps_busyCalls : ServerKeepsItsContract busyCalls := by
  refine (keeps_launchingCalls.append (by decide)).concat ?_
  exact ⟨0, rfl⟩

theorem requests_keep_their_service_busy :
    (httpHostThreads.state (busyCalls ++ [.enterStop])).host.service =
        (httpHostThreads.state busyCalls).host.service ∧
      (httpHostThreads.state busyCalls).requests.handling ≤
        (httpHostThreads.state
          busyCalls).host.configuration.maximumConnections.toNat :=
  requests_keep_their_service (keeps_busyCalls.append (by decide))
    (by intro impossible; cases impossible)

end TgGate
