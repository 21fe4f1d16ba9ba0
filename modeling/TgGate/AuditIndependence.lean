import TgGate.ApplicationRuns
import TgGate.ApprovalLifetime

namespace TgGate

open Library

/-!
# The audit log is independent of message content

Two runs make the same requests with different texts, against ports that answer
with different chats, messages and errors but succeed and fail alike.  The
states stay equal except for the texts stored in actions, and every step
records the same entries in both.
-/

/-- The same clock readings and random bytes; the port may differ. -/
structure SameReadings (first second : Environment) : Prop where
  random :
    first.random = second.random
  now :
    first.now = second.now
  auditNow :
    first.auditNow = second.auditNow

/-- A text `prepare_send_message` does not reject for its length. -/
def AcceptedLength (text : Bytes) : Prop :=
  1 ≤ text.length ∧ text.length ≤ 4096

/-- The same request up to the port and the text of a prepared message. -/
inductive SameRequest : ServiceCommand → ServiceCommand → Prop
  | listChats
      {first second : Environment}
      {profile : McpClientProfile}
      {accountId : Bytes}
      (readings : SameReadings first second) :
      SameRequest
        (.listChats first profile accountId)
        (.listChats second profile accountId)
  | getMessages
      {first second : Environment}
      {profile : McpClientProfile}
      {accountId : Bytes}
      {chatId : Int64}
      {limit : UInt64}
      (readings : SameReadings first second) :
      SameRequest
        (.getMessages first profile accountId chatId limit)
        (.getMessages second profile accountId chatId limit)
  | prepareSendMessage
      {first second : Environment}
      {profile : McpClientProfile}
      {accountId : Bytes}
      {chatId : Int64}
      {text other : Bytes}
      (readings : SameReadings first second)
      (accepted : AcceptedLength text)
      (otherAccepted : AcceptedLength other) :
      SameRequest
        (.write (.prepareSendMessage first profile accountId chatId
          text))
        (.write (.prepareSendMessage second profile accountId chatId
          other))
  | takeForExecution
      {first second : Environment}
      {profile : McpClientProfile}
      {actionId : Bytes}
      (readings : SameReadings first second) :
      SameRequest
        (.write (.takeForExecution first profile actionId))
        (.write (.takeForExecution second profile actionId))
  | sendApproved
      {first second : Environment}
      {index : Nat}
      (readings : SameReadings first second) :
      SameRequest
        (.write (.sendApproved first index))
        (.write (.sendApproved second index))
  | approve {now : TimePoint} {actionId : Bytes} :
      SameRequest
        (.write (.approve now actionId))
        (.write (.approve now actionId))
  | deny {now : TimePoint} {actionId : Bytes} :
      SameRequest
        (.write (.deny now actionId))
        (.write (.deny now actionId))
  | lockdown :
      SameRequest (.write .lockdown) (.write .lockdown)

/-- The port a command may call. -/
def ServiceCommand.telegram : ServiceCommand → ITelegramService
  | .listChats environment .. => environment.telegram
  | .getMessages environment .. => environment.telegram
  | .write (.prepareSendMessage environment ..) => environment.telegram
  | .write (.takeForExecution environment ..) => environment.telegram
  | .write (.sendApproved environment ..) => environment.telegram
  | .write (.approve ..) => unavailableTelegramService
  | .write (.deny ..) => unavailableTelegramService
  | .write .lockdown => unavailableTelegramService

/-- The port calls a command makes. -/
def newCalls
    (engine : IPolicyEngine)
    (pipeline : WritePipeline)
    (command : ServiceCommand) : List TelegramCall :=
  ((applicationMachine engine).step pipeline
    command).1.telegramCalls.drop pipeline.telegramCalls.length

/-- How the port calls of a command end. -/
def callOutcomes
    (engine : IPolicyEngine)
    (pipeline : WritePipeline)
    (command : ServiceCommand) : List OutcomeKind :=
  (newCalls engine pipeline command).map command.telegram.outcome

/--
The commands differ in content only, and where both call the port they succeed
or fail alike.
-/
structure DifferInContent
    (engine : IPolicyEngine)
    (first second : WritePipeline)
    (command other : ServiceCommand) : Prop where
  request :
    SameRequest command other
  outcomes :
    ∀ pair ∈ (callOutcomes engine first command).zip
        (callOutcomes engine second other),
      pair.1 = pair.2

/-- An action with other arguments. -/
def PendingAction.withArguments
    (action : PendingAction)
    (arguments : Json) : PendingAction :=
  { action with arguments := arguments }

/-- Two actions that differ in the text to be sent only. -/
def SameExceptText (action other : PendingAction) : Prop :=
  ∃ text otherText,
    action.arguments = TelegramApplicationService.sendArguments text ∧
      other =
        action.withArguments
          (TelegramApplicationService.sendArguments otherText)

/-- Two execute requests that differ in the text to be sent only. -/
def SameExecution (execution other : Execution) : Prop :=
  execution.profile = other.profile ∧
    SameExceptText execution.action other.action

/-- Two states that differ in stored texts and past port calls only. -/
structure SameExceptContent (first second : WritePipeline) : Prop where
  audit :
    first.auditEntries = second.auditEntries
  stored :
    ∀ actionId,
      Option.Rel SameExceptText
        (first.approvals.lookup actionId)
        (second.approvals.lookup actionId)
  executing :
    List.Forall₂ SameExecution first.executing second.executing

namespace PendingAction

@[simp] theorem withArguments_id
    (action : PendingAction) (arguments : Json) :
    (action.withArguments arguments).id = action.id :=
  rfl

@[simp] theorem withArguments_clientId
    (action : PendingAction) (arguments : Json) :
    (action.withArguments arguments).clientId = action.clientId :=
  rfl

@[simp] theorem withArguments_invocation
    (action : PendingAction) (arguments : Json) :
    (action.withArguments arguments).invocation = action.invocation :=
  rfl

@[simp] theorem withArguments_expiresAt
    (action : PendingAction) (arguments : Json) :
    (action.withArguments arguments).expiresAt = action.expiresAt :=
  rfl

@[simp] theorem withArguments_status
    (action : PendingAction) (arguments : Json) :
    (action.withArguments arguments).status = action.status :=
  rfl

@[simp] theorem refresh_withArguments
    (now : TimePoint) (action : PendingAction) (arguments : Json) :
    (action.withArguments arguments).refresh now =
      (action.refresh now).withArguments arguments := by
  unfold refresh
  by_cases expired : action.status = .pending ∧ isExpired now action
  · rw [if_pos expired]
    exact if_pos expired
  · rw [if_neg expired]
    exact if_neg expired

@[simp] theorem settled_withArguments
    (now : TimePoint) (status : ActionStatus)
    (action : PendingAction) (arguments : Json) :
    (action.withArguments arguments).settled now status =
      (action.settled now status).withArguments arguments := by
  unfold settled
  by_cases awaits : action.AwaitsDecision now
  · rw [if_pos awaits]
    exact if_pos awaits
  · rw [if_neg awaits, ← refresh_withArguments]
    exact if_neg awaits

@[simp] theorem taken_withArguments
    (now : TimePoint) (profile : McpClientProfile)
    (engine : IPolicyEngine)
    (action : PendingAction) (arguments : Json) :
    (action.withArguments arguments).taken now profile engine =
      (action.taken now profile engine).withArguments arguments := by
  unfold taken
  by_cases owned :
      action.status = .approved ∧ action.clientId = profile.id
  · rw [if_pos owned]
    refine (if_pos owned).trans ?_
    by_cases denied :
        (engine.evaluate profile action.invocation).effect = .deny
    · rw [if_pos denied]
      exact if_pos denied
    · rw [if_neg denied]
      exact if_neg denied
  · rw [if_neg owned, ← refresh_withArguments]
    exact if_neg owned

@[simp] theorem lockedDown_withArguments
    (action : PendingAction) (arguments : Json) :
    (action.withArguments arguments).lockedDown =
      action.lockedDown.withArguments arguments := by
  unfold lockedDown
  by_cases outstanding : ApprovalService.outstanding action
  · rw [if_pos outstanding]
    exact if_pos outstanding
  · rw [if_neg outstanding]
    exact if_neg outstanding

end PendingAction

section Actions

variable {action other : PendingAction}

/-- The status of an action moves without regard to its text. -/
theorem effect_withArguments
    (operation : Operation)
    (action : PendingAction)
    (arguments : Json) :
    operation.effect (action.withArguments arguments) =
      (operation.effect action).withArguments arguments := by
  cases operation with
  | prepare | pendingActions =>
      rfl
  | approve now actionId | deny now actionId
  | takeApprovedForExecution now actionId profile engine =>
      by_cases named : action.id = actionId
      · simp [Operation.effect, named]
      · simp [Operation.effect, named]
  | lockdown =>
      exact PendingAction.lockedDown_withArguments action arguments

/-- No operation changes the arguments of an action. -/
theorem arguments_effect
    (operation : Operation)
    (action : PendingAction) :
    (operation.effect action).arguments = action.arguments := by
  obtain ⟨status, effect⟩ :=
    operation.exists_effect_eq_withStatus action
  rw [effect, PendingAction.withStatus_arguments]

theorem SameExceptText.id
    (same : SameExceptText action other) :
    other.id = action.id := by
  obtain ⟨_, _, -, rfl⟩ := same
  rfl

theorem SameExceptText.effect
    (same : SameExceptText action other)
    (operation : Operation) :
    SameExceptText
      (operation.effect action) (operation.effect other) := by
  obtain ⟨text, otherText, arguments, rfl⟩ := same
  exact ⟨text, otherText,
    (arguments_effect operation action).trans arguments,
    effect_withArguments operation action _⟩

theorem SameExceptText.withStatus
    (same : SameExceptText action other)
    (status : ActionStatus) :
    SameExceptText
      (action.withStatus status) (other.withStatus status) := by
  obtain ⟨text, otherText, arguments, rfl⟩ := same
  exact ⟨text, otherText, arguments, rfl⟩

/-- Whether an action can be executed does not depend on its text. -/
theorem SameExceptText.executable_iff
    (same : SameExceptText action other)
    (profile : McpClientProfile)
    (engine : IPolicyEngine) :
    other.Executable profile engine ↔
      action.Executable profile engine := by
  obtain ⟨_, _, -, rfl⟩ := same
  exact Iff.rfl

end Actions

/-!
## One pair of steps

The store, the requests in progress and the log are followed separately.
-/

section Steps

variable
  {engine : IPolicyEngine}
  {first second : WritePipeline}
  {command other : ServiceCommand}

/-- Two texts of accepted length are accepted alike. -/
theorem acceptsMessage_iff
    {profile : McpClientProfile}
    {accountId : Bytes}
    {chatId : Int64}
    {text other : Bytes}
    (accepted : AcceptedLength text)
    (otherAccepted : AcceptedLength other) :
    TelegramApplicationService.AcceptsMessage engine profile accountId
        chatId text ↔
      TelegramApplicationService.AcceptsMessage engine profile accountId
        chatId other :=
  ⟨fun message =>
      ⟨otherAccepted.1, otherAccepted.2, message.permitted⟩,
    fun message => ⟨accepted.1, accepted.2, message.permitted⟩⟩

/-- Store entries that differ in texts still do after one operation. -/
theorem rel_lookup_step
    {service otherService : ApprovalService}
    {operation otherOperation : Operation}
    {actionId : Bytes}
    (stored :
      Option.Rel SameExceptText
        (service.lookup actionId) (otherService.lookup actionId))
    (moved :
      ∀ {action otherAction},
        SameExceptText action otherAction →
        SameExceptText
          (operation.effect action)
          (otherOperation.effect otherAction))
    (created :
      Option.Rel SameExceptText
        operation.created? otherOperation.created?) :
    Option.Rel SameExceptText
      ((approvalMachine.step service operation).1.lookup actionId)
      ((approvalMachine.step otherService otherOperation).1.lookup
        actionId) := by
  rw [lookup_step, lookup_step]
  generalize service.lookup actionId = entry at stored ⊢
  generalize otherService.lookup actionId = otherEntry at stored ⊢
  cases stored with
  | some same =>
      exact .some (moved same)
  | none =>
      generalize operation.created? = new at created ⊢
      generalize otherOperation.created? = otherNew at created ⊢
      cases created with
      | none =>
          exact .none
      | some same =>
          simp only [Option.filter_some, same.id]
          split
          · exact .some same
          · exact .none

/-- The same operation on both stores. -/
theorem rel_lookup_step_same
    {service otherService : ApprovalService}
    {operation : Operation}
    {actionId : Bytes}
    (stored :
      Option.Rel SameExceptText
        (service.lookup actionId) (otherService.lookup actionId))
    (creates : operation.created? = none) :
    Option.Rel SameExceptText
      ((approvalMachine.step service operation).1.lookup actionId)
      ((approvalMachine.step otherService operation).1.lookup
        actionId) :=
  rel_lookup_step stored (fun same => same.effect operation)
    (by rw [creates]; exact .none)

/-- The stores still differ in texts only. -/
theorem stored_of_sameRequest
    (request : SameRequest command other)
    (same : SameExceptContent first second)
    (actionId : Bytes) :
    Option.Rel SameExceptText
      (((applicationMachine engine).step first
        command).1.approvals.lookup actionId)
      (((applicationMachine engine).step second
        other).1.approvals.lookup actionId) := by
  have stored := same.stored actionId
  rw [approvals_applicationStep, approvals_applicationStep]
  cases request with
  | listChats | getMessages | sendApproved =>
      exact stored
  | approve | deny | lockdown =>
      exact rel_lookup_step_same stored rfl
  | takeForExecution readings =>
      simp only [ServiceCommand.operation?, Command.operation?,
        readings.now]
      exact rel_lookup_step_same stored rfl
  | @prepareSendMessage environment otherEnvironment profile accountId
      chatId text otherText readings accepted otherAccepted =>
      simp only [ServiceCommand.operation?, Command.operation?,
        readings.now, readings.random,
        acceptsMessage_iff accepted otherAccepted]
      split
      · refine rel_lookup_step stored id ?_
        simp only [Operation.created?]
        cases createSecureId otherEnvironment.random with
        | error thrown =>
            exact .none
        | ok id =>
            exact .some ⟨text, otherText, rfl, rfl⟩
      · exact stored

/-- Taking hands out actions that differ in texts only. -/
theorem rel_takeApprovedForExecution
    {service otherService : ApprovalService}
    {actionId : Bytes}
    (stored :
      Option.Rel SameExceptText
        (service.lookup actionId) (otherService.lookup actionId))
    (now : TimePoint)
    (profile : McpClientProfile) :
    Option.Rel SameExceptText
      (service.takeApprovedForExecution now actionId profile engine).1
      (otherService.takeApprovedForExecution now actionId profile
        engine).1 := by
  rw [ApprovalService.takeApprovedForExecution_fst,
    ApprovalService.takeApprovedForExecution_fst]
  generalize service.lookup actionId = entry at stored ⊢
  generalize otherService.lookup actionId = otherEntry at stored ⊢
  cases stored with
  | none =>
      exact .none
  | some same =>
      simp only [Option.bind_some, same.executable_iff]
      split
      · exact .some (same.withStatus .executed)
      · exact .none

/-- The requests in progress still differ in texts only. -/
theorem executing_of_sameRequest
    (request : SameRequest command other)
    (same : SameExceptContent first second) :
    List.Forall₂ SameExecution
      ((applicationMachine engine).step first command).1.executing
      ((applicationMachine engine).step second other).1.executing := by
  cases request with
  | listChats | getMessages | prepareSendMessage | approve | deny
  | lockdown =>
      exact same.executing
  | @takeForExecution environment otherEnvironment profile actionId
      readings =>
      have taken :=
        @rel_takeApprovedForExecution engine first.approvals
          second.approvals actionId (same.stored actionId)
          otherEnvironment.now profile
      simp only [applicationMachine, writePipeline,
        TelegramApplicationService.takeForExecution, readings.now]
      simp only [WritePipeline.approvals] at taken
      generalize
        first.desktop.service.approvals.takeApprovedForExecution
          otherEnvironment.now actionId profile engine = answer
        at taken ⊢
      generalize
        second.desktop.service.approvals.takeApprovedForExecution
          otherEnvironment.now actionId profile engine = otherAnswer
        at taken ⊢
      rcases answer with ⟨found, approvals⟩
      rcases otherAnswer with ⟨otherFound, otherApprovals⟩
      cases taken with
      | none =>
          exact same.executing
      | some sameAction =>
          exact List.rel_append same.executing
            (.cons ⟨rfl, sameAction⟩ .nil)
  | @sendApproved environment otherEnvironment index readings =>
      have erased := forall₂_eraseIdx same.executing index
      have found := rel_getElem?_of_forall₂ same.executing index
      simp only [applicationMachine, writePipeline]
      generalize first.executing[index]? = answer at found ⊢
      generalize second.executing[index]? = otherAnswer at found ⊢
      cases found with
      | none =>
          exact same.executing
      | some sameExecution =>
          exact erased

/-- The entry of a request depends on the readings only. -/
theorem auditEntry_congr
    {environment otherEnvironment : Environment}
    (readings : SameReadings environment otherEnvironment)
    (profile : McpClientProfile)
    (invocation : ToolInvocation)
    (decision : PolicyEffect)
    (resultStatus : Bytes)
    (actionId : Option Bytes) :
    auditEntry environment profile invocation decision resultStatus
        actionId =
      auditEntry otherEnvironment profile invocation decision
        resultStatus actionId := by
  simp only [auditEntry, readings.auditNow]

theorem outcomeEntries_congr
    {environment otherEnvironment : Environment}
    (readings : SameReadings environment otherEnvironment)
    (profile : McpClientProfile)
    (invocation : ToolInvocation)
    (decision : PolicyEffect)
    (actionId : Option Bytes)
    (outcome : OutcomeKind) :
    outcomeEntries environment profile invocation decision actionId
        outcome =
      outcomeEntries otherEnvironment profile invocation decision
        actionId outcome := by
  cases outcome <;>
    simp only [outcomeEntries, auditEntry_congr readings]

/-- A read whose port call ends alike, if it is made, is logged alike. -/
theorem readEntries_congr
    {environment otherEnvironment : Environment}
    {profile : McpClientProfile}
    {invocation : ToolInvocation}
    {outcome otherOutcome : OutcomeKind}
    (readings : SameReadings environment otherEnvironment)
    (alike :
      (engine.evaluate profile invocation).isAllowed = true →
      outcome = otherOutcome) :
    readEntries engine environment profile invocation outcome =
      readEntries engine otherEnvironment profile invocation
        otherOutcome := by
  unfold readEntries
  by_cases allowed :
      (engine.evaluate profile invocation).isAllowed = true
  · rw [alike allowed]
    simp only [allowed, ↓reduceIte]
    exact outcomeEntries_congr readings profile invocation _ none
      otherOutcome
  · simp only [allowed, Bool.false_eq_true, ↓reduceIte,
      auditEntry_congr readings]

theorem prepareEntries_congr
    {environment otherEnvironment : Environment}
    {profile : McpClientProfile}
    {accountId : Bytes}
    {chatId : Int64}
    {text otherText : Bytes}
    (readings : SameReadings environment otherEnvironment)
    (accepted : AcceptedLength text)
    (otherAccepted : AcceptedLength otherText) :
    prepareEntries engine environment profile accountId chatId text =
      prepareEntries engine otherEnvironment profile accountId chatId
        otherText := by
  have sized {any : Bytes} (length : AcceptedLength any) :
      (any.isEmpty || decide (any.length > 4096)) = false := by
    rcases length with ⟨nonempty, bounded⟩
    have notEmpty : any ≠ [] :=
      List.length_pos_iff.mp nonempty
    simp [notEmpty, Nat.not_lt.mpr bounded]
  unfold prepareEntries
  rw [sized accepted, sized otherAccepted]
  simp only [Bool.false_eq_true, ↓reduceIte, readings.random,
    auditEntry_congr readings]

/-- Sending messages whose port calls end alike is logged alike. -/
theorem sendEntries_congr
    {environment otherEnvironment : Environment}
    {profile : McpClientProfile}
    {action other : PendingAction}
    (readings : SameReadings environment otherEnvironment)
    (same : SameExceptText action other)
    (alike :
      ∀ call ∈ TelegramApplicationService.sendCall? action,
        ∀ otherCall ∈ TelegramApplicationService.sendCall? other,
          environment.telegram.outcome call =
            otherEnvironment.telegram.outcome otherCall) :
    sendEntries environment profile action =
      sendEntries otherEnvironment profile other := by
  obtain ⟨text, otherText, arguments, rfl⟩ := same
  cases chat : action.invocation.chatId with
  | none =>
      simp [sendEntries, TelegramApplicationService.sendCall?, chat]
  | some chatId =>
      have call :=
        TelegramApplicationService.sendCall?_of_arguments chat arguments
      have otherCall :
          TelegramApplicationService.sendCall?
              (action.withArguments
                (TelegramApplicationService.sendArguments otherText)) =
            some (.sendMessage action.invocation.accountId chatId
              otherText) :=
        TelegramApplicationService.sendCall?_of_arguments chat rfl
      have sameOutcome := alike _ call _ otherCall
      simp only [sendEntries, call, otherCall, sameOutcome,
        PendingAction.withArguments_invocation,
        PendingAction.withArguments_id]
      exact outcomeEntries_congr readings profile action.invocation
        .allow (some action.id) _

/-- The port call of an execute request that goes on. -/
theorem telegramCalls_sendStep
    {environment : Environment}
    {index : Nat}
    {execution : Execution}
    {call : TelegramCall}
    (found : first.executing[index]? = some execution)
    (sends :
      TelegramApplicationService.sendCall? execution.action =
        some call) :
    ((applicationMachine engine).step first
        (.write (.sendApproved environment index))).1.telegramCalls =
      first.telegramCalls ++ [call] := by
  have calls :=
    first.desktop.service.telegramCalls_sendApproved environment
      execution.profile execution.action
  rw [sends] at calls
  simpa [applicationMachine, writePipeline, found,
    WritePipeline.telegramCalls, WritePipeline.setService] using calls

/-- A step that calls the port once has one outcome. -/
theorem callOutcomes_eq
    {call : TelegramCall}
    (called :
      ((applicationMachine engine).step first
          command).1.telegramCalls =
        first.telegramCalls ++ [call]) :
    callOutcomes engine first command =
      [command.telegram.outcome call] := by
  simp [callOutcomes, newCalls, called]

/-- Steps that both call the port end alike. -/
theorem outcome_eq
    {call otherCall : TelegramCall}
    (differ : DifferInContent engine first second command other)
    (called :
      ((applicationMachine engine).step first
          command).1.telegramCalls =
        first.telegramCalls ++ [call])
    (otherCalled :
      ((applicationMachine engine).step second
          other).1.telegramCalls =
        second.telegramCalls ++ [otherCall]) :
    command.telegram.outcome call = other.telegram.outcome otherCall := by
  have alike := differ.outcomes
  rw [callOutcomes_eq called, callOutcomes_eq otherCalled] at alike
  simpa using alike

/-- Both steps append the same entries. -/
theorem recorded_of_differInContent
    (differ : DifferInContent engine first second command other)
    (same : SameExceptContent first second) :
    command.recorded engine first = other.recorded engine second := by
  have request := differ.request
  cases request with
  | listChats readings =>
      refine readEntries_congr readings fun allowed => ?_
      exact outcome_eq differ
        (TelegramApplicationService.telegramCalls_listChats_of_allowed
          _ _ _ _ allowed)
        (TelegramApplicationService.telegramCalls_listChats_of_allowed
          _ _ _ _ allowed)
  | getMessages readings =>
      refine readEntries_congr readings fun allowed => ?_
      exact outcome_eq differ
        (TelegramApplicationService.telegramCalls_getMessages_of_allowed
          _ _ _ _ allowed)
        (TelegramApplicationService.telegramCalls_getMessages_of_allowed
          _ _ _ _ allowed)
  | prepareSendMessage readings accepted otherAccepted =>
      exact prepareEntries_congr readings accepted otherAccepted
  | takeForExecution | approve | deny | lockdown =>
      rfl
  | @sendApproved environment otherEnvironment index readings =>
      simp only [ServiceCommand.recorded]
      have found := rel_getElem?_of_forall₂ same.executing index
      cases here : first.executing[index]? with
      | none =>
          rw [here] at found
          cases there : second.executing[index]? with
          | none =>
              rfl
          | some otherExecution =>
              rw [there] at found
              cases found
      | some execution =>
          rw [here] at found
          cases there : second.executing[index]? with
          | none =>
              rw [there] at found
              cases found
          | some otherExecution =>
              rw [there] at found
              cases found with
              | some sameExecution =>
                  simp only [← sameExecution.1]
                  refine sendEntries_congr readings sameExecution.2 ?_
                  intro call sends otherCall otherSends
                  exact outcome_eq differ
                    (telegramCalls_sendStep here sends)
                    (telegramCalls_sendStep there otherSends)

/-- Two such steps keep the states equal except for content. -/
theorem sameExceptContent_step
    (same : SameExceptContent first second)
    (differ : DifferInContent engine first second command other) :
    SameExceptContent
      ((applicationMachine engine).step first command).1
      ((applicationMachine engine).step second other).1 where
  audit := by
    rw [auditEntries_step, auditEntries_step, same.audit,
      recorded_of_differInContent differ same]
  stored := stored_of_sameRequest differ.request same
  executing := executing_of_sameRequest differ.request same

end Steps

/-- Both runs begin in the same state. -/
theorem sameExceptContent_initial (engine : IPolicyEngine) :
    SameExceptContent
      (applicationMachine engine).initial
      (applicationMachine engine).initial where
  audit := rfl
  stored _ := .none
  executing := .nil

/--
Two runs that differ in message content only leave the same audit log.
-/
theorem auditEntries_independent_of_content
    {engine : IPolicyEngine}
    {commands others : List ServiceCommand}
    (lockstep :
      (applicationMachine engine).Lockstep (DifferInContent engine)
        (applicationMachine engine).initial
        (applicationMachine engine).initial commands others) :
    ((applicationMachine engine).state commands).auditEntries =
      ((applicationMachine engine).state others).auditEntries :=
  ((applicationMachine engine).related_of_lockstep SameExceptContent
    sameExceptContent_step (sameExceptContent_initial engine)
    lockstep).audit

/-- A profile that may read one chat and write to it. -/
def correspondent : McpClientProfile :=
  { writerProfile with
    allowedTools :=
      [bytes "telegram_get_messages",
        bytes "telegram_prepare_send_message"] }

/-- A port whose only chat holds the given messages. -/
def chatPort (messages : List Message) : ITelegramService where
  listChats _ := .ok (.value [])
  getMessages _ _ _ := .ok (.value messages)
  sendMessage _ chatId text :=
    .ok (.value { chatId := chatId, text := text })

/-- Read a chat, then prepare, approve and send a message to it. -/
def conversation
    (messages : List Message)
    (text : Bytes) : List ServiceCommand :=
  [.getMessages { telegram := chatPort messages } correspondent
      (bytes "work") 42 50,
    .write (.prepareSendMessage { random := zeroRandom } correspondent
      (bytes "work") 42 text),
    .write (.approve ticksPerSecond zeroId),
    .write (.takeForExecution { now := 2 * ticksPerSecond } correspondent
      zeroId),
    .write (.sendApproved { telegram := chatPort messages } 0)]

theorem auditEntries_independent_of_content_conversation :
    ((applicationMachine policyEngine).state
        (conversation [] (bytes "hello"))).auditEntries =
      ((applicationMachine policyEngine).state
        (conversation [{ text := bytes "secret" }]
          (bytes "see you tomorrow"))).auditEntries := by
  have short : AcceptedLength (bytes "hello") := by
    unfold AcceptedLength
    decide
  have long : AcceptedLength (bytes "see you tomorrow") := by
    unfold AcceptedLength
    decide
  refine auditEntries_independent_of_content ⟨⟨?_, ?_⟩, ⟨?_, ?_⟩,
    ⟨?_, ?_⟩, ⟨?_, ?_⟩, ⟨?_, ?_⟩, trivial⟩
  · exact .getMessages ⟨rfl, rfl, rfl⟩
  · decide +kernel
  · exact .prepareSendMessage ⟨rfl, rfl, rfl⟩ short long
  · decide +kernel
  · exact .approve
  · decide +kernel
  · exact .takeForExecution ⟨rfl, rfl, rfl⟩
  · decide +kernel
  · exact .sendApproved ⟨rfl, rfl, rfl⟩
  · decide +kernel

end TgGate
