import TgGate.HttpHostThreads

namespace TgGate

open Library

/-!
# The calls of the operator

What the threads do between the calls of the service is invisible to their
caller: the fields and the results are those of calls that are carried out in
one piece.  The log of a run tells which: a call begins with its label, a start
has the plan that it was supplied with when it had loaded, and its outcome is
the one that its last part came to.
-/

/-- The service whose functions are called in one piece. -/
def mcpHostCalls : Machine McpHost McpHost.Call HostReturn where
  initial := {}
  step := McpHost.call

/-- The call that the operator's thread is in. -/
inductive CurrentCall where
  | stop
  | start
  /-- A start that has made its plan and turned to the HTTP host. -/
  | launch
      (configuration : McpHostConfiguration)
      (clients : List AuthenticatedClient)

/-- The calls that have returned, and the one in progress. -/
structure OperatorLog where
  returned : List McpHost.Call := []
  current? : Option CurrentCall := none

namespace OperatorLog

/-- The call in progress returns. -/
def returns (call : McpHost.Call) (log : OperatorLog) : OperatorLog where
  returned := log.returned ++ [call]
  current? := none

/-- A call begins, unless one is in progress. -/
def enters
    (call : CurrentCall)
    (threads : HttpHostThreads)
    (log : OperatorLog) : OperatorLog :=
  match threads.operator with
  | .idle => { log with current? := some call }
  | _ => log

/-- The call in progress goes on. -/
def goesOn
    (supply : HostSupply)
    (phase : HostPhase)
    (log : OperatorLog) : OperatorLog :=
  match log.current?, phase with
  | some .stop, .clearing false => log.returns .stop
  | some .start, .loading =>
      match supply.plan with
      | .launches configuration clients =>
          { log with current? := some (.launch configuration clients) }
      | .throws _ | .fails _ | .disabled =>
          log.returns (.start supply.plan .started)
  | some (.launch configuration clients), .spawning =>
      if supply.threadStarts then
        log
      else
        log.returns (.start (.launches configuration clients) .threw)
  | some (.launch configuration clients), .failing error =>
      log.returns
        (.start (.launches configuration clients) (.failed error))
  | some (.launch configuration clients), .accepting =>
      log.returns (.start (.launches configuration clients) .started)
  | _, _ => log

/-- What the log says after a step. -/
def after
    (threads : HttpHostThreads)
    (log : OperatorLog) : HttpHostCall → OperatorLog
  | .enterStart => log.enters .start threads
  | .enterStop => log.enters .stop threads
  | .operator supply => log.goesOn supply threads.operator
  | .server _ | .request _ => log

end OperatorLog

/-- The log of the steps from a state. -/
def operatorLogFrom :
    HttpHostThreads → OperatorLog → List HttpHostCall → OperatorLog
  | _, log, [] => log
  | threads, log, call :: rest =>
      operatorLogFrom (httpHostThreads.step threads call).1
        (log.after threads call) rest

/-- The log of a run. -/
def operatorLog (calls : List HttpHostCall) : OperatorLog :=
  operatorLogFrom {} {} calls

theorem operatorLogFrom_snoc
    (threads : HttpHostThreads)
    (log : OperatorLog)
    (calls : List HttpHostCall)
    (call : HttpHostCall) :
    operatorLogFrom threads log (calls ++ [call]) =
      (operatorLogFrom threads log calls).after
        (httpHostThreads.stateFrom threads calls) call := by
  induction calls generalizing threads log with
  | nil =>
      rfl
  | cons next rest inductionHypothesis =>
      exact inductionHypothesis _ _

theorem operatorLog_snoc
    (calls : List HttpHostCall)
    (call : HttpHostCall) :
    operatorLog (calls ++ [call]) =
      (operatorLog calls).after (httpHostThreads.state calls) call :=
  operatorLogFrom_snoc {} {} calls call

/--
The fields in a phase, from those before the function was called, and the call
that is in progress.
-/
def HostPhase.Follows
    (called current : McpHost)
    (current? : Option CurrentCall) : HostPhase → Prop
  | .idle => current? = none ∧ current = called
  | .stopping _ (.service true) | .clearing true =>
      current? = some .start ∧ current = called
  | .stopping _ (.service false) | .clearing false =>
      current? = some .stop ∧ current = called
  | .loading => current? = some .start ∧ current = called.stop
  | .checking | .preparing | .spawning | .waiting | .failing _
  | .accepting | .stopping _ .start | .stopping _ (.failure _) =>
      ∃ configuration clients,
        current? = some (.launch configuration clients) ∧
          current = called.stop.install configuration clients

/-- A stop leaves the fields to the phase behind it. -/
theorem HostPhase.follows_stopping_iff
    {called current : McpHost}
    {current? : Option CurrentCall}
    (point : HostStopPhase)
    (after : AfterHostStop) :
    (HostPhase.stopping point after).Follows called current current? ↔
      after.phase.Follows called current current? := by
  rcases after with (_ | _) | _ | _ <;> rfl

/-- The result that a step returns to the operator. -/
def HttpHostEvent.returned? : HttpHostEvent → Option HostReturn
  | .returned result => some result
  | .nothing | .calledBack _ | .threw _ _ | .replied _ => none

namespace HttpHostThreads

/-- The threads are where the calls of the log leave the operator. -/
def FollowsLog
    (threads : HttpHostThreads)
    (called : McpHost)
    (log : OperatorLog) : Prop :=
  threads.operator.Follows called threads.host log.current?

/-- A step returns what the calls that it adds to the log return. -/
def Logs
    (called : McpHost)
    (before log : OperatorLog)
    (after : HttpHostThreads × HttpHostEvent) : Prop :=
  ∃ own? : Option McpHost.Call,
    log.returned = before.returned ++ own?.toList ∧
      after.1.FollowsLog (mcpHostCalls.stateFrom called own?.toList) log ∧
        after.2.returned?.toList =
          Machine.shown some
            (mcpHostCalls.historyFrom called own?.toList)

section Calls

variable {threads next : HttpHostThreads}
variable {called : McpHost}
variable {log later : OperatorLog}

/-- The step returns what the call made of its outcome. -/
theorem logs_of_return
    {own : McpHost.Call}
    {host : McpHost}
    {result : HostReturn}
    (here : called.call own = (host, result)) :
    Logs called log (log.returns own) (threads.leave (host, result)) := by
  refine ⟨some own, rfl, ⟨rfl, ?_⟩, ?_⟩
  · exact (congrArg Prod.fst here).symm
  · exact congrArg (fun answer => [answer]) (congrArg Prod.snd here).symm

/-- A step that returns nothing belongs to the call in progress. -/
theorem logs_of_progress
    {event : HttpHostEvent}
    (same : later.returned = log.returned)
    (silent : event.returned? = none)
    (follows : next.FollowsLog called later) :
    Logs called log later (next, event) := by
  refine ⟨none, ?_, follows, ?_⟩
  · rw [same]
    exact (List.append_nil _).symm
  · rw [silent]
    rfl

theorem follows_advanceStop
    {point : HostStopPhase}
    {after : AfterHostStop}
    (here : threads.operator = .stopping point after)
    (follows : threads.FollowsLog called log) :
    (threads.advanceStop after point).FollowsLog called log := by
  have stands := follows
  rw [FollowsLog, here] at stands
  have behind := (HostPhase.follows_stopping_iff point after).mp stands
  cases point with
  | closing =>
      exact (HostPhase.follows_stopping_iff .joining after).mpr behind
  | joining =>
      have reset :=
        (HostPhase.follows_stopping_iff .resetting after).mpr behind
      -- The operator waits while the thread of the server runs.
      rcases thread : threads.thread with _ | ⟨_ | _ | _⟩ <;>
        simp only [advanceStop, thread]
      · exact reset
      · exact follows
      · exact follows
      · exact reset
  | resetting =>
      exact behind

theorem follows_awaitStartup
    {timedOut : Bool}
    (follows : HostPhase.waiting.Follows called threads.host log.current?) :
    (threads.awaitStartup timedOut).FollowsLog called log := by
  unfold awaitStartup
  cases threads.startupFinished with
  | true =>
      cases threads.startupOk <;> exact follows
  | false =>
      cases timedOut <;> exact follows

/-- The plan ends the call, or the call turns to the HTTP host. -/
theorem logs_takePlan
    (isStart : log.current? = some .start)
    (isStopped : threads.host = called.stop)
    (supply : HostSupply) :
    Logs called log (log.goesOn supply .loading)
      (threads.takePlan supply.plan) := by
  simp only [OperatorLog.goesOn, isStart]
  cases plan : supply.plan with
  | launches configuration clients =>
      refine logs_of_progress rfl rfl ⟨configuration, clients, rfl, ?_⟩
      simp [isStopped]
  | throws | fails | disabled =>
      simp only [takePlan]
      refine logs_of_return ?_
      rw [isStopped]
      rfl

/-- The operator's thread follows the call that it is in. -/
theorem logs_advanceOperator
    (follows : threads.FollowsLog called log)
    (supply : HostSupply) :
    Logs called log (log.goesOn supply threads.operator)
      (threads.advanceOperator supply threads.operator) := by
  have stands := follows
  unfold FollowsLog at stands
  cases here : threads.operator with
  | idle =>
      rw [here] at stands
      simp only [OperatorLog.goesOn, stands.1, advanceOperator]
      exact logs_of_progress rfl rfl follows
  | stopping point after =>
      have same : log.goesOn supply (.stopping point after) = log := by
        unfold OperatorLog.goesOn
        rcases log.current? with _ | ⟨_ | _ | _⟩ <;> rfl
      rw [same]
      exact logs_of_progress rfl rfl (follows_advanceStop here follows)
  | clearing restarts =>
      rw [here] at stands
      cases restarts with
      | true =>
          obtain ⟨isStart, isCalled⟩ := stands
          simp only [OperatorLog.goesOn, isStart, advanceOperator]
          exact logs_of_progress rfl rfl
            ⟨isStart, congrArg McpHost.stop isCalled⟩
      | false =>
          obtain ⟨isStop, isCalled⟩ := stands
          simp only [OperatorLog.goesOn, isStop, advanceOperator]
          refine logs_of_return ?_
          rw [isCalled]
          rfl
  | loading =>
      rw [here] at stands
      exact logs_takePlan stands.1 stands.2 supply
  | checking =>
      rw [here] at stands
      obtain ⟨configuration, clients, isLaunch, isInstalled⟩ := stands
      simp only [OperatorLog.goesOn, isLaunch, advanceOperator]
      refine logs_of_progress rfl rfl ?_
      cases optionsError? (McpHost.hostOptions threads.host.configuration)
      <;> exact ⟨configuration, clients, isLaunch, isInstalled⟩
  | preparing =>
      rw [here] at stands
      obtain ⟨configuration, clients, isLaunch, isInstalled⟩ := stands
      simp only [OperatorLog.goesOn, isLaunch, advanceOperator]
      exact logs_of_progress rfl rfl
        ⟨configuration, clients, isLaunch, isInstalled⟩
  | spawning =>
      rw [here] at stands
      obtain ⟨configuration, clients, isLaunch, isInstalled⟩ := stands
      simp only [OperatorLog.goesOn, isLaunch, advanceOperator]
      cases supply.threadStarts with
      | true =>
          exact logs_of_progress rfl rfl
            ⟨configuration, clients, isLaunch, isInstalled⟩
      | false =>
          refine logs_of_return ?_
          rw [isInstalled]
          rfl
  | waiting =>
      rw [here] at stands
      have awaits :=
        @follows_awaitStartup threads called log supply.timedOut stands
      obtain ⟨configuration, clients, isLaunch, -⟩ := stands
      simp only [OperatorLog.goesOn, isLaunch, advanceOperator]
      exact logs_of_progress rfl rfl awaits
  | failing error =>
      rw [here] at stands
      obtain ⟨configuration, clients, isLaunch, isInstalled⟩ := stands
      simp only [OperatorLog.goesOn, isLaunch, advanceOperator]
      refine logs_of_return ?_
      rw [isInstalled]
      rfl
  | accepting =>
      rw [here] at stands
      obtain ⟨configuration, clients, isLaunch, isInstalled⟩ := stands
      simp only [OperatorLog.goesOn, isLaunch, advanceOperator]
      refine logs_of_return ?_
      rw [isInstalled]
      rfl

/-- A call begins where none is in progress. -/
theorem follows_enter
    (restarts : Bool)
    (follows : threads.FollowsLog called log) :
    (threads.enter restarts).FollowsLog called
        (log.enters (if restarts then .start else .stop) threads) ∧
      (log.enters (if restarts then .start else .stop)
          threads).returned =
        log.returned := by
  have stands := follows
  unfold FollowsLog at stands
  unfold enter OperatorLog.enters
  cases here : threads.operator with
  | idle =>
      rw [here] at stands
      cases restarts <;> exact ⟨⟨rfl, stands.2⟩, rfl⟩
  | _ =>
      exact ⟨follows, rfl⟩

/-- The other threads change nothing of the service. -/
theorem keeps_advanceServer (move : ServerMove) :
    (threads.advanceServer move).1.operator = threads.operator ∧
      (threads.advanceServer move).1.host = threads.host ∧
        (threads.advanceServer move).2.returned? = none := by
  unfold advanceServer
  split <;> exact ⟨rfl, rfl, rfl⟩

theorem logs_step
    (follows : threads.FollowsLog called log)
    (call : HttpHostCall) :
    Logs called log (log.after threads call)
      (httpHostThreads.step threads call) := by
  cases call with
  | enterStart =>
      obtain ⟨entered, same⟩ := follows_enter true follows
      exact logs_of_progress same rfl entered
  | enterStop =>
      obtain ⟨entered, same⟩ := follows_enter false follows
      exact logs_of_progress same rfl entered
  | operator supply =>
      exact logs_advanceOperator follows supply
  | server move =>
      obtain ⟨operator, host, silent⟩ := @keeps_advanceServer threads move
      refine logs_of_progress rfl silent ?_
      unfold FollowsLog at follows ⊢
      rwa [← operator, ← host] at follows
  | request call =>
      exact logs_of_progress rfl rfl follows

end Calls

end HttpHostThreads

/-- In every run the log tells the calls and what they have come to. -/
theorem follows_run (calls : List HttpHostCall) :
    (httpHostThreads.state calls).FollowsLog
        (mcpHostCalls.state (operatorLog calls).returned)
        (operatorLog calls) ∧
      Machine.shown HttpHostEvent.returned?
          (httpHostThreads.history calls) =
        Machine.shown some
          (mcpHostCalls.history (operatorLog calls).returned) := by
  induction calls using List.reverseRecOn with
  | nil =>
      exact ⟨⟨rfl, rfl⟩, rfl⟩
  | append_singleton calls call inductionHypothesis =>
      obtain ⟨follows, shown⟩ := inductionHypothesis
      obtain ⟨own?, grows, followsNow, returned⟩ :=
        HttpHostThreads.logs_step follows call
      rw [operatorLog_snoc, grows, Machine.state_snoc,
        Machine.history_snoc, Machine.shown_append, Machine.shown_singleton,
        Machine.history_append, Machine.shown_append, shown, ← returned]
      have continued :=
        mcpHostCalls.stateFrom_append mcpHostCalls.initial
          (operatorLog calls).returned own?.toList
      refine ⟨?_, rfl⟩
      rw [← Machine.state, ← Machine.state] at continued
      rw [continued]
      exact followsNow

/-- What a start is given, apart from the service and the HTTP host. -/
structure StartInputs (World : Type) where
  library : DocumentLibrary
  platform : Platform World
  saveOutcome : ReplacementOutcome
  path : FilesystemPath
  profiles : List McpClientProfile
  files : FileSystem
  world : World

namespace StartInputs

variable {World : Type}

/-- The plan that `start` makes of its inputs. -/
def plan (inputs : StartInputs World) : StartPlan :=
  (McpHost.planStart inputs.library inputs.platform inputs.saveOutcome
    inputs.path inputs.profiles inputs.files inputs.world).1

/-- `LocalMcpHttpService::start`, if the HTTP host returns this error. -/
def start
    (hostError? : Option Bytes)
    (inputs : StartInputs World)
    (host : McpHost) : McpHost × HostReturn :=
  let started :=
    McpHost.start inputs.library inputs.platform inputs.saveOutcome
      (fun _ => hostError?) inputs.path inputs.profiles host inputs.files
      inputs.world
  (started.2.2, .start started.1)

/-- A start in one piece is `start` with its plan and its outcome. -/
theorem call_eq_start
    (inputs : StartInputs World)
    (hostError? : Option Bytes)
    (host : McpHost) :
    host.call (.start inputs.plan (McpHost.outcomeOf hostError?)) =
      inputs.start hostError? host := by
  have carriedOut :=
    (McpHost.start_eq_carryOut inputs.library inputs.platform
      inputs.saveOutcome (fun _ => hostError?) inputs.path inputs.profiles
      host inputs.files inputs.world).2
  refine Eq.trans ?_ carriedOut
  change host.stop.carryOut (McpHost.outcomeOf hostError?) inputs.plan =
    host.stop.carryOut
      (McpHost.planOutcome (fun _ => hostError?) inputs.plan) inputs.plan
  cases inputs.plan <;> rfl

end StartInputs

/--
In every interleaving the operator gets the results of the calls of the log,
carried out in one piece and in their order, and between two calls the service
has the fields that these calls leave.  A call whose plan was made of some inputs
is `start` on these inputs.
-/
theorem threads_refine_calls (calls : List HttpHostCall) :
    (httpHostThreads.state calls).operator.Follows
        (mcpHostCalls.state (operatorLog calls).returned)
        (httpHostThreads.state calls).host (operatorLog calls).current? ∧
      Machine.shown HttpHostEvent.returned?
          (httpHostThreads.history calls) =
        Machine.shown some
          (mcpHostCalls.history (operatorLog calls).returned) ∧
      ∀ {World : Type} (inputs : StartInputs World)
          (hostError? : Option Bytes) (host : McpHost),
        mcpHostCalls.step host
            (.start inputs.plan (McpHost.outcomeOf hostError?)) =
          inputs.start hostError? host := by
  obtain ⟨follows, shown⟩ := follows_run calls
  exact ⟨follows, shown, fun inputs => inputs.call_eq_start⟩

/-- The operator stops the host, and its label stands for the call. -/
example :
    (operatorLog (.enterStop :: List.replicate 4 (.operator {}))).returned =
      [.stop] :=
  rfl

end TgGate
