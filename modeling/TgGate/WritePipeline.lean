import TgGate.ApprovalRuns
import TgGate.DesktopUi
import TgGate.Library.Pool

namespace TgGate

open Library

/-!
# The write pipeline

Clients prepare and execute, the operator approves, denies and locks down, all
at any time.  An execute request first takes its action under the approval
mutex and then calls the Telegram port without it, so other commands may run
between the two halves.  Requests that are between the halves are kept in
`executing`; any of them may continue next.

The approval store inside the pipeline goes through a run of `approvalMachine`.
-/

/-- An execute request that has taken its action and not yet sent it. -/
structure Execution where
  profile : McpClientProfile
  action : PendingAction

/-- The desktop state and the execute requests in progress. -/
structure WritePipeline where
  desktop : DesktopUiState := {}
  executing : List Execution := []

/-- One atomic step of a client request or of the operator. -/
inductive Command where
  | prepareSendMessage
      (environment : Environment)
      (profile : McpClientProfile)
      (accountId : Bytes)
      (chatId : Int64)
      (text : Bytes)
  | takeForExecution
      (environment : Environment)
      (profile : McpClientProfile)
      (actionId : Bytes)
  | sendApproved (environment : Environment) (index : Nat)
  | approve (now : TimePoint) (actionId : Bytes)
  | deny (now : TimePoint) (actionId : Bytes)
  | lockdown

/-- What a step answers. -/
inductive Reply where
  /-- A client request is answered. -/
  | response (outcome : Except Exception Json)
  /-- An execute request has its action and goes on. -/
  | taken
  /-- An execute request is answered after these calls of the port. -/
  | sent
      (execution : Execution)
      (calls : List TelegramCall)
      (outcome : Except Exception Json)
  /-- Whether the operator's decision took effect. -/
  | decided (accepted : Bool)
  | done
  /-- No such request is in progress. -/
  | idle

namespace WritePipeline

/-- The approval store of the pipeline. -/
def approvals (pipeline : WritePipeline) : ApprovalService :=
  pipeline.desktop.service.approvals

/-- Replace the state of the application service. -/
def setService
    (pipeline : WritePipeline)
    (service : TelegramApplicationService) : WritePipeline :=
  { pipeline with
    desktop := { pipeline.desktop with service := service } }

end WritePipeline

/-- The pipeline under one policy engine, starting empty. -/
def writePipeline
    (engine : IPolicyEngine) : Machine WritePipeline Command Reply where
  initial := {}
  step pipeline command :=
    match command with
    | .prepareSendMessage environment profile accountId chatId text =>
        let (outcome, service) :=
          pipeline.desktop.service.prepareSendMessage engine environment
            profile accountId chatId text
        (pipeline.setService service, .response outcome)
    | .takeForExecution environment profile actionId =>
        match pipeline.desktop.service.takeForExecution engine
            environment profile actionId with
        | (none, service) =>
            (pipeline.setService service,
              .response (.ok TelegramApplicationService.notExecutable))
        | (some action, service) =>
            ({ pipeline.setService service with
                executing := pipeline.executing ++ [⟨profile, action⟩] },
              .taken)
    | .sendApproved environment index =>
        match pipeline.executing[index]? with
        | none => (pipeline, .idle)
        | some execution =>
            let (outcome, service) :=
              pipeline.desktop.service.sendApproved environment
                execution.profile execution.action
            ({ pipeline.setService service with
                executing := pipeline.executing.eraseIdx index },
              .sent execution
                (service.telegramCalls.drop
                  pipeline.desktop.service.telegramCalls.length)
                outcome)
    | .approve now actionId =>
        let (accepted, desktop) := pipeline.desktop.approve now actionId
        ({ pipeline with desktop := desktop }, .decided accepted)
    | .deny now actionId =>
        let (accepted, desktop) := pipeline.desktop.deny now actionId
        ({ pipeline with desktop := desktop }, .decided accepted)
    | .lockdown =>
        -- Nothing but the status line reads the flag, so setting it with
        -- the store is one step.
        ({ pipeline with desktop := pipeline.desktop.lockdown }, .done)

/-- One entry of the history of the pipeline. -/
abbrev WriteEvent := Event Command Reply

/-- The port calls made during a step. -/
def Reply.calls : Reply → List TelegramCall
  | .sent _ calls _ => calls
  | _ => []

/--
Taking and sending without interruption is what the service does for one
execute request.
-/
theorem take_then_send
    {engine : IPolicyEngine}
    {pipeline : WritePipeline}
    {environment : Environment}
    {profile : McpClientProfile}
    {actionId : Bytes}
    {action : PendingAction}
    (taken :
      (pipeline.desktop.service.takeForExecution engine environment
        profile actionId).1 = some action) :
    ((writePipeline engine).stateFrom pipeline
        [.takeForExecution environment profile actionId,
          .sendApproved environment pipeline.executing.length]) =
      pipeline.setService
        (pipeline.desktop.service.executeApprovedAction engine
          environment profile actionId).2 := by
  simp only [Machine.stateFrom, writePipeline,
    TelegramApplicationService.executeApprovedAction]
  generalize pipeline.desktop.service.takeForExecution engine
    environment profile actionId = outcome at taken
  rcases outcome with ⟨found, service⟩
  simp only at taken
  subst found
  simp [WritePipeline.setService, List.eraseIdx_append_of_length_le]

namespace Command

/-- What a command asks of the approval store. -/
def operation?
    (engine : IPolicyEngine) : Command → Option Operation
  | .prepareSendMessage environment profile accountId chatId text =>
      if TelegramApplicationService.AcceptsMessage engine profile
          accountId chatId text then
        some (.prepare environment.now environment.random profile.id
          (TelegramApplicationService.sendInvocation accountId chatId)
          (TelegramApplicationService.sendArguments text) 120)
      else
        none
  | .takeForExecution environment profile actionId =>
      some (.takeApprovedForExecution environment.now actionId
        profile engine)
  | .sendApproved _ _ => none
  | .approve now actionId => some (.approve now actionId)
  | .deny now actionId => some (.deny now actionId)
  | .lockdown => some .lockdown

/-- The action a command creates. -/
def created?
    (engine : IPolicyEngine)
    (command : Command) : Option PendingAction :=
  (command.operation? engine).bind Operation.created?

/-- What a command turns a stored action into. -/
def effect
    (engine : IPolicyEngine)
    (command : Command)
    (action : PendingAction) : PendingAction :=
  match command.operation? engine with
  | some operation => operation.effect action
  | none => action

end Command

/-- The run of the approval store inside a run of the pipeline. -/
def approvalRun
    (engine : IPolicyEngine)
    (commands : List Command) : List Operation :=
  commands.filterMap (Command.operation? engine)

/-- The random generator never produces an action id twice. -/
def FreshActionIds
    (engine : IPolicyEngine)
    (commands : List Command) : Prop :=
  FreshIds (approvalRun engine commands)

instance (engine : IPolicyEngine) (commands : List Command) :
    Decidable (FreshActionIds engine commands) :=
  inferInstanceAs (Decidable (FreshIds _))

/-- A command moves the store by the operation it asks for. -/
theorem approvals_step
    (engine : IPolicyEngine)
    (pipeline : WritePipeline)
    (command : Command) :
    ((writePipeline engine).step pipeline command).1.approvals =
      approvalMachine.stateFrom pipeline.approvals
        (command.operation? engine).toList := by
  cases command with
  | prepareSendMessage environment profile accountId chatId text =>
      simp only [writePipeline, WritePipeline.approvals,
        WritePipeline.setService,
        TelegramApplicationService.approvals_prepareSendMessage,
        Command.operation?]
      split <;> rfl
  | takeForExecution environment profile actionId =>
      simp only [writePipeline, WritePipeline.approvals,
        TelegramApplicationService.takeForExecution,
        Command.operation?, Option.toList_some, Machine.stateFrom,
        approvalMachine]
      cases pipeline.desktop.service.approvals.takeApprovedForExecution
          environment.now actionId profile engine with
      | mk found approvals =>
          cases found <;> rfl
  | sendApproved environment index =>
      simp only [writePipeline, Command.operation?]
      cases pipeline.executing[index]? with
      | none =>
          rfl
      | some execution =>
          simp [WritePipeline.approvals, WritePipeline.setService,
            Machine.stateFrom]
  | approve | deny | lockdown =>
      rfl

/-- A stored action after one command. -/
theorem pipeline_lookup_of_stored
    {engine : IPolicyEngine}
    {pipeline : WritePipeline}
    {actionId : Bytes}
    {action : PendingAction}
    (stored : pipeline.approvals.lookup actionId = some action)
    (command : Command) :
    ((writePipeline engine).step pipeline command).1.approvals.lookup
        actionId =
      some (command.effect engine action) := by
  rw [approvals_step, Command.effect]
  cases command.operation? engine with
  | none =>
      exact stored
  | some operation =>
      exact lookup_step_of_stored stored operation

/-- A free id after one command. -/
theorem pipeline_lookup_of_free
    {engine : IPolicyEngine}
    {pipeline : WritePipeline}
    {actionId : Bytes}
    (free : pipeline.approvals.lookup actionId = none)
    (command : Command) :
    ((writePipeline engine).step pipeline command).1.approvals.lookup
        actionId =
      (command.created? engine).filter
        fun action => action.id = actionId := by
  rw [approvals_step, Command.created?]
  cases command.operation? engine with
  | none =>
      exact free
  | some operation =>
      exact lookup_step_of_free free operation

namespace Command

/-- A command changes nothing but the status of a stored action. -/
theorem exists_effect_eq_withStatus
    (engine : IPolicyEngine)
    (command : Command)
    (action : PendingAction) :
    ∃ status, command.effect engine action =
      action.withStatus status := by
  unfold effect
  cases command.operation? engine with
  | none =>
      exact ⟨action.status, rfl⟩
  | some operation =>
      exact operation.exists_effect_eq_withStatus action

/-- Finished actions stay as they are. -/
theorem effect_of_finished
    {action : PendingAction}
    (finished : action.Finished)
    (engine : IPolicyEngine)
    (command : Command) :
    command.effect engine action = action := by
  unfold effect
  cases command.operation? engine with
  | none =>
      rfl
  | some operation =>
      exact operation.effect_of_finished finished

/-- Only an accepted `prepare` creates an action. -/
theorem created?_eq_some_iff
    {engine : IPolicyEngine}
    {command : Command}
    {action : PendingAction} :
    command.created? engine = some action ↔
      ∃ environment profile accountId chatId text id,
        command =
            .prepareSendMessage environment profile accountId
              chatId text ∧
          TelegramApplicationService.AcceptsMessage engine profile
            accountId chatId text ∧
          createSecureId environment.random = .ok id ∧
          action = {
            id := id
            clientId := profile.id
            invocation :=
              TelegramApplicationService.sendInvocation accountId chatId
            arguments := TelegramApplicationService.sendArguments text
            createdAt := environment.now
            expiresAt := environment.now + 120 * ticksPerSecond
          } := by
  constructor
  · intro created
    unfold created? at created
    obtain ⟨operation, asked, creates⟩ :=
      Option.bind_eq_some_iff.mp created
    cases command with
    | prepareSendMessage environment profile accountId chatId text =>
        simp only [operation?] at asked
        split at asked
        · next accepted =>
            obtain ⟨now, random, owner, invocation, arguments,
                lifetime, id, prepared, drawn, rfl⟩ :=
              prepare_of_created? creates
            cases asked
            cases prepared
            exact ⟨environment, profile, accountId, chatId, text,
              id, rfl, accepted, drawn, rfl⟩
        · cases asked
    | takeForExecution | approve | deny | lockdown =>
        cases asked
        simp [Operation.created?] at creates
    | sendApproved =>
        cases asked
  · rintro ⟨environment, profile, accountId, chatId, text, id, rfl,
      accepted, random, rfl⟩
    simp [created?, operation?, accepted, Operation.created?, random]

end Command

/-- A successful approval of one action. -/
def ApprovesAt
    (now : TimePoint)
    (actionId : Bytes)
    (event : WriteEvent) : Prop :=
  event = ⟨.approve now actionId, .decided true⟩

/-- A successful denial of one action. -/
def Denies (actionId : Bytes) (event : WriteEvent) : Prop :=
  ∃ now, event = ⟨.deny now actionId, .decided true⟩

/-- A request of one profile takes one action. -/
def TakesFor
    (profile : McpClientProfile)
    (actionId : Bytes)
    (event : WriteEvent) : Prop :=
  ∃ environment,
    event = ⟨.takeForExecution environment profile actionId, .taken⟩

/-- A request that took one action goes on to the port. -/
def Sends (actionId : Bytes) (event : WriteEvent) : Prop :=
  ∃ execution calls outcome,
    event.output = .sent execution calls outcome ∧
      execution.action.id = actionId

/-- The operator's decision succeeds exactly for a decidable action. -/
theorem approvesAt_eventAt_iff
    {engine : IPolicyEngine}
    {pipeline : WritePipeline}
    {command : Command}
    {now : TimePoint}
    {actionId : Bytes} :
    ApprovesAt now actionId
        ((writePipeline engine).eventAt pipeline command) ↔
      command = .approve now actionId ∧
        ∃ action,
          pipeline.approvals.lookup actionId = some action ∧
            action.AwaitsDecision now := by
  constructor
  · intro approves
    obtain ⟨isApprove, accepted⟩ := Event.mk.inj approves
    subst isApprove
    simp only [writePipeline, DesktopUiState.approve,
      PendingActionsViewModel.approve, ApprovalService.approve,
      Reply.decided.injEq, ApprovalService.settle_fst,
      Option.isSome_iff_exists, Option.bind_eq_some_iff] at accepted
    rcases accepted with ⟨_, action, stored, decided⟩
    refine ⟨rfl, action, stored, ?_⟩
    by_contra refused
    simp [refused] at decided
  · rintro ⟨rfl, action, stored, awaits⟩
    have found :
        pipeline.desktop.service.approvals.lookup actionId =
          some action :=
      stored
    simp [ApprovesAt, Machine.eventAt, writePipeline,
      DesktopUiState.approve, PendingActionsViewModel.approve,
      ApprovalService.approve, ApprovalService.settle_fst, found,
      awaits]

theorem denies_eventAt_iff
    {engine : IPolicyEngine}
    {pipeline : WritePipeline}
    {command : Command}
    {actionId : Bytes} :
    Denies actionId
        ((writePipeline engine).eventAt pipeline command) ↔
      ∃ now action,
        command = .deny now actionId ∧
          pipeline.approvals.lookup actionId = some action ∧
          action.AwaitsDecision now := by
  constructor
  · rintro ⟨now, denies⟩
    obtain ⟨isDeny, accepted⟩ := Event.mk.inj denies
    subst isDeny
    simp only [writePipeline, DesktopUiState.deny,
      PendingActionsViewModel.deny, ApprovalService.deny,
      Reply.decided.injEq, ApprovalService.settle_fst,
      Option.isSome_iff_exists, Option.bind_eq_some_iff] at accepted
    rcases accepted with ⟨_, action, stored, decided⟩
    refine ⟨now, action, rfl, stored, ?_⟩
    by_contra refused
    simp [refused] at decided
  · rintro ⟨now, action, rfl, stored, awaits⟩
    have found :
        pipeline.desktop.service.approvals.lookup actionId =
          some action :=
      stored
    refine ⟨now, ?_⟩
    simp [Machine.eventAt, writePipeline, DesktopUiState.deny,
      PendingActionsViewModel.deny, ApprovalService.deny,
      ApprovalService.settle_fst, found, awaits]

/-- What one command does to the requests in progress and to the port. -/
inductive StepShape
    (engine : IPolicyEngine)
    (pipeline : WritePipeline)
    (command : Command) : Prop where
  /-- No request takes an action or sends one. -/
  | quiet
      (executing :
        ((writePipeline engine).step pipeline command).1.executing =
          pipeline.executing)
      (port :
        ((writePipeline engine).step pipeline
            command).1.desktop.service.telegramCalls =
          pipeline.desktop.service.telegramCalls)
      (notTaken :
        ((writePipeline engine).step pipeline command).2 ≠ .taken)
      (notSent :
        ∀ execution calls outcome,
          ((writePipeline engine).step pipeline command).2 ≠
            .sent execution calls outcome)
  /-- A request takes an executable action. -/
  | takes
      {environment : Environment}
      {profile : McpClientProfile}
      {action : PendingAction}
      (label :
        command = .takeForExecution environment profile action.id)
      (stored :
        pipeline.approvals.lookup action.id = some action)
      (executable : action.Executable profile engine)
      (executing :
        ((writePipeline engine).step pipeline command).1.executing =
          pipeline.executing ++ [⟨profile, action.withStatus .executed⟩])
      (port :
        ((writePipeline engine).step pipeline
            command).1.desktop.service.telegramCalls =
          pipeline.desktop.service.telegramCalls)
      (output :
        ((writePipeline engine).step pipeline command).2 = .taken)
  /-- A request in progress makes its call and ends. -/
  | sends
      {environment : Environment}
      {index : Nat}
      {execution : Execution}
      {before after : List Execution}
      (label : command = .sendApproved environment index)
      (found : pipeline.executing = before ++ execution :: after)
      (executing :
        ((writePipeline engine).step pipeline command).1.executing =
          before ++ after)
      (port :
        ((writePipeline engine).step pipeline
            command).1.desktop.service.telegramCalls =
          pipeline.desktop.service.telegramCalls ++
            (TelegramApplicationService.sendCall?
              execution.action).toList)
      (output :
        ∃ outcome,
          ((writePipeline engine).step pipeline command).2 =
            .sent execution
              (TelegramApplicationService.sendCall?
                execution.action).toList
              outcome)

theorem stepShape
    (engine : IPolicyEngine)
    (pipeline : WritePipeline)
    (command : Command) :
    StepShape engine pipeline command := by
  cases command with
  | prepareSendMessage environment profile accountId chatId text =>
      exact .quiet rfl
        (TelegramApplicationService.telegramCalls_prepareSendMessage
          _ engine environment profile accountId chatId text)
        (by simp [writePipeline]) (by simp [writePipeline])
  | takeForExecution environment profile actionId =>
      have returned :
          (pipeline.desktop.service.takeForExecution engine environment
              profile actionId).1 =
            (pipeline.approvals.lookup actionId).bind fun action =>
              if action.Executable profile engine then
                some (action.withStatus .executed)
              else
                none :=
        ApprovalService.takeApprovedForExecution_fst _ _ _ _ _
      have calls :=
        pipeline.desktop.service.telegramCalls_takeForExecution engine
          environment profile actionId
      generalize shape :
        pipeline.desktop.service.takeForExecution engine environment
          profile actionId = answer at returned calls
      rcases answer with ⟨found, service⟩
      cases found with
      | none =>
          refine .quiet ?_ ?_ ?_ ?_
          · simp [writePipeline, shape, WritePipeline.setService]
          · simpa [writePipeline, shape, WritePipeline.setService]
              using calls
          · simp [writePipeline, shape]
          · simp [writePipeline, shape]
      | some taken =>
          obtain ⟨action, stored, accepted⟩ :=
            Option.bind_eq_some_iff.mp returned.symm
          have sameId := ApprovalService.id_of_lookup stored
          subst actionId
          have executable : action.Executable profile engine := by
            by_contra refused
            simp [refused] at accepted
          rw [if_pos executable, Option.some.injEq] at accepted
          refine .takes rfl stored executable ?_ ?_ ?_
          · simp [writePipeline, shape, accepted,
              WritePipeline.setService]
          · simpa [writePipeline, shape, WritePipeline.setService]
              using calls
          · simp [writePipeline, shape]
  | sendApproved environment index =>
      cases found : pipeline.executing[index]? with
      | none =>
          refine .quiet ?_ ?_ ?_ ?_ <;>
            simp [writePipeline, found]
      | some execution =>
          obtain ⟨before, after, split, erased, -⟩ :=
            exists_split_of_getElem? found
          have calls :=
            pipeline.desktop.service.telegramCalls_sendApproved
              environment execution.profile execution.action
          refine .sends rfl split ?_ ?_ ?_
          · simp [writePipeline, found, erased]
          · simpa [writePipeline, found, WritePipeline.setService]
              using calls
          · simp [writePipeline, found, calls]
  | approve | deny | lockdown =>
      refine .quiet rfl rfl ?_ ?_ <;>
        simp [writePipeline]

/-- The port was called exactly as the history tells. -/
theorem telegramCalls_state
    (engine : IPolicyEngine)
    (commands : List Command) :
    ((writePipeline engine).state
        commands).desktop.service.telegramCalls =
      ((writePipeline engine).history commands).flatMap
        fun event => event.output.calls := by
  refine (writePipeline engine).invariant_of_step
    (fun _ => True)
    (fun _ pipeline history =>
      pipeline.desktop.service.telegramCalls =
        history.flatMap fun event => event.output.calls)
    (fun _ => trivial) rfl ?_ trivial
  intro earlier command _ sameCalls
  have answered :
      ((writePipeline engine).step
          ((writePipeline engine).state earlier)
          command).1.desktop.service.telegramCalls =
        ((writePipeline engine).state
            earlier).desktop.service.telegramCalls ++
          ((writePipeline engine).step
            ((writePipeline engine).state earlier)
            command).2.calls := by
    cases stepShape engine ((writePipeline engine).state earlier)
        command with
    | quiet _ port _ notSent =>
        rw [port]
        cases reply :
            ((writePipeline engine).step
              ((writePipeline engine).state earlier) command).2 with
        | sent execution calls outcome =>
            exact absurd reply (notSent execution calls outcome)
        | response | taken | decided | done | idle =>
            simp [Reply.calls]
    | takes _ _ _ _ port output =>
        simp [port, output, Reply.calls]
    | sends _ _ _ port output =>
        rcases output with ⟨outcome, output⟩
        simp [port, output, Reply.calls]
  rw [answered, sameCalls]
  simp [Machine.eventAt]

end TgGate
