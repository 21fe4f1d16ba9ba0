import TgGate.ApplicationRuns
import TgGate.ApprovalLifetime

namespace TgGate

open Library

/-!
# Which refusals are audited

A call of the application service has the policy engine evaluate at most one
invocation: its own, or that of the approved action it is about to execute.
The three requests that evaluate their own invocation record a refusal through
`deny_and_audit`.  The evaluation at execution is hidden in the approval store,
which turns a refusal into an absent action, and nothing is recorded.
-/

/-- One whole call of the application service by a client. -/
inductive ServiceCall where
  | listChats (accountId : Bytes)
  | getMessages (accountId : Bytes) (chatId : Int64) (limit : UInt64)
  | prepareSendMessage
      (accountId : Bytes)
      (chatId : Int64)
      (text : Bytes)
  | executeApprovedAction (actionId : Bytes)

namespace ServiceCall

/-- The answer to a call and the state it leaves behind. -/
def perform
    (service : TelegramApplicationService)
    (engine : IPolicyEngine)
    (environment : Environment)
    (profile : McpClientProfile) :
    ServiceCall → Except Exception Json × TelegramApplicationService
  | .listChats accountId =>
      service.listChats engine environment profile accountId
  | .getMessages accountId chatId limit =>
      service.getMessages engine environment profile accountId chatId
        limit
  | .prepareSendMessage accountId chatId text =>
      service.prepareSendMessage engine environment profile accountId
        chatId text
  | .executeApprovedAction actionId =>
      service.executeApprovedAction engine environment profile actionId

/-- The invocation a call has the engine evaluate, if it gets that far. -/
def evaluated?
    (service : TelegramApplicationService)
    (environment : Environment)
    (profile : McpClientProfile) : ServiceCall → Option ToolInvocation
  | .listChats accountId => some (listChatsInvocation accountId)
  | .getMessages accountId chatId _ =>
      some (getMessagesInvocation accountId chatId)
  | .prepareSendMessage accountId chatId text =>
      if text.isEmpty || text.length > 4096 then
        none
      else
        some (TelegramApplicationService.sendInvocation accountId chatId)
  | .executeApprovedAction actionId =>
      match (service.approvals.findAndExpireLocked environment.now
          actionId).1 with
      | none => none
      | some action =>
          if action.status ≠ .approved ∨
              action.clientId ≠ profile.id then
            none
          else
            some action.invocation

/--
Nothing else is evaluated: engines that agree on that invocation answer the
call alike.
-/
theorem perform_congr
    {service : TelegramApplicationService}
    {engine other : IPolicyEngine}
    {environment : Environment}
    {profile : McpClientProfile}
    {call : ServiceCall}
    (agree :
      ∀ invocation ∈ call.evaluated? service environment profile,
        engine.evaluate profile invocation =
          other.evaluate profile invocation) :
    call.perform service engine environment profile =
      call.perform service other environment profile := by
  cases call with
  | listChats accountId =>
      have same := agree _ rfl
      unfold listChatsInvocation at same
      simp only [perform, TelegramApplicationService.listChats, same]
  | getMessages accountId chatId limit =>
      have same := agree _ rfl
      unfold getMessagesInvocation at same
      simp only [perform, TelegramApplicationService.getMessages, same]
  | prepareSendMessage accountId chatId text =>
      simp only [perform, TelegramApplicationService.prepareSendMessage]
      split
      · rfl
      · next sized =>
          have same :=
            agree
              (TelegramApplicationService.sendInvocation accountId
                chatId)
              (by simp [evaluated?, sized])
          rw [same]
  | executeApprovedAction actionId =>
      have sameTake :
          service.approvals.takeApprovedForExecution environment.now
              actionId profile engine =
            service.approvals.takeApprovedForExecution environment.now
              actionId profile other := by
        unfold ApprovalService.takeApprovedForExecution
        simp only [evaluated?] at agree
        generalize service.approvals.findAndExpireLocked environment.now
          actionId = found at agree
        rcases found with ⟨_ | action, approvals⟩
        · rfl
        · simp only at agree ⊢
          split
          · rfl
          · next executable =>
              have same :=
                agree action.invocation (by simp [executable])
              rw [same]
      simp only [perform,
        TelegramApplicationService.executeApprovedAction,
        TelegramApplicationService.takeForExecution, sameTake]

/-- Executing evaluates an approved action of the caller, and no other. -/
theorem evaluated?_executeApprovedAction_eq_some_iff
    {service : TelegramApplicationService}
    {environment : Environment}
    {profile : McpClientProfile}
    {actionId : Bytes}
    {invocation : ToolInvocation} :
    (executeApprovedAction actionId).evaluated? service environment
        profile = some invocation ↔
      ∃ action,
        service.approvals.lookup actionId = some action ∧
          action.status = .approved ∧
          action.clientId = profile.id ∧
          action.invocation = invocation := by
  obtain ⟨refreshed, found, -⟩ :=
    service.approvals.exists_findAndExpireLocked_eq environment.now
      actionId
  simp only [evaluated?, found]
  cases stored : service.approvals.lookup actionId with
  | none =>
      simp
  | some action =>
      simp only [Option.map_some, Option.some.injEq,
        exists_eq_left']
      by_cases approved : action.status = .approved
      · by_cases owner : action.clientId = profile.id
        · simp [ApprovalService.refresh_of_approved, approved, owner]
        · simp [ApprovalService.refresh_of_approved, approved, owner]
      · simp [ApprovalService.refresh_status_eq_approved_iff, approved]

end ServiceCall

/-- The entry a refused invocation of a client should leave. -/
structure RecordsRefusal
    (profile : McpClientProfile)
    (invocation : ToolInvocation)
    (entry : AuditEntry) : Prop where
  denied :
    entry.resultStatus = bytes "denied"
  client :
    entry.clientId = profile.id
  account :
    entry.accountId = invocation.accountId
  tool :
    entry.toolName = invocation.toolName
  chat :
    entry.chatId = invocation.chatId

/-- If the engine refuses during a call, the call appends one such entry. -/
def RefusalAudited
    (service : TelegramApplicationService)
    (engine : IPolicyEngine)
    (environment : Environment)
    (profile : McpClientProfile)
    (call : ServiceCall) : Prop :=
  ∀ invocation ∈ call.evaluated? service environment profile,
    (engine.evaluate profile invocation).effect = .deny →
      ∃ entry,
        (call.perform service engine environment profile).2.auditEntries =
            service.auditEntries ++ [entry] ∧
          RecordsRefusal profile invocation entry

/-- The call executes an approved action that the engine now refuses. -/
def RefusedAtExecution
    (service : TelegramApplicationService)
    (engine : IPolicyEngine)
    (profile : McpClientProfile)
    (call : ServiceCall) : Prop :=
  ∃ actionId action,
    call = .executeApprovedAction actionId ∧
      service.approvals.lookup actionId = some action ∧
      action.status = .approved ∧
      action.clientId = profile.id ∧
      (engine.evaluate profile action.invocation).effect = .deny

/-- The entry `deny_and_audit` records. -/
theorem recordsRefusal_auditEntry
    (environment : Environment)
    (profile : McpClientProfile)
    (invocation : ToolInvocation)
    (decision : PolicyEffect) :
    RecordsRefusal profile invocation
      (auditEntry environment profile invocation decision
        (bytes "denied")) :=
  ⟨rfl, rfl, rfl, rfl, rfl⟩

section Refusals

variable
  {service : TelegramApplicationService}
  {engine : IPolicyEngine}
  {environment : Environment}
  {profile : McpClientProfile}

theorem readEntries_of_denied
    {invocation : ToolInvocation}
    (denied : (engine.evaluate profile invocation).effect = .deny)
    (outcome : OutcomeKind) :
    readEntries engine environment profile invocation outcome =
      [auditEntry environment profile invocation .deny
        (bytes "denied")] := by
  simp [readEntries, PolicyDecision.isAllowed, denied]

/-- Executing an action the engine refuses records nothing. -/
theorem auditEntries_of_refusedAtExecution
    {call : ServiceCall}
    (refused : RefusedAtExecution service engine profile call) :
    (call.perform service engine environment profile).2.auditEntries =
      service.auditEntries := by
  obtain ⟨actionId, action, rfl, stored, -, -, denied⟩ := refused
  have notTaken :
      (service.approvals.takeApprovedForExecution environment.now
        actionId profile engine).1 = none := by
    rw [ApprovalService.takeApprovedForExecution_fst, stored]
    simp [PendingAction.Executable, denied]
  simp only [ServiceCall.perform]
  rw [TelegramApplicationService.auditEntries_executeApprovedAction,
    notTaken, List.append_nil]

/-- In any state, only refusals at execution go unrecorded. -/
theorem refusalAudited_iff_not_refusedAtExecution
    {call : ServiceCall} :
    RefusalAudited service engine environment profile call ↔
      ¬ RefusedAtExecution service engine profile call := by
  constructor
  · rintro audited refused
    have unchanged :=
      @auditEntries_of_refusedAtExecution _ _ environment _ _ refused
    obtain ⟨actionId, action, rfl, stored, approved, owner, denied⟩ :=
      refused
    obtain ⟨entry, appended, -⟩ :=
      audited action.invocation
        (ServiceCall.evaluated?_executeApprovedAction_eq_some_iff.mpr
          ⟨action, stored, approved, owner, rfl⟩)
        denied
    rw [unchanged] at appended
    simp at appended
  · intro elsewhere invocation evaluated denied
    cases call with
    | listChats accountId =>
        obtain rfl := Option.some.inj evaluated
        refine ⟨_, ?_, recordsRefusal_auditEntry environment profile
          _ .deny⟩
        rw [ServiceCall.perform,
          TelegramApplicationService.auditEntries_listChats,
          readEntries_of_denied denied]
    | getMessages accountId chatId limit =>
        obtain rfl := Option.some.inj evaluated
        refine ⟨_, ?_, recordsRefusal_auditEntry environment profile
          _ .deny⟩
        rw [ServiceCall.perform,
          TelegramApplicationService.auditEntries_getMessages,
          readEntries_of_denied denied]
    | prepareSendMessage accountId chatId text =>
        simp only [ServiceCall.evaluated?] at evaluated
        split at evaluated
        · cases evaluated
        · next sized =>
            obtain rfl := Option.some.inj evaluated
            refine ⟨_, ?_, recordsRefusal_auditEntry environment profile
          _ .deny⟩
            rw [ServiceCall.perform,
              TelegramApplicationService.auditEntries_prepareSendMessage]
            simp only [prepareEntries, sized, Bool.false_eq_true,
              ↓reduceIte, denied]
    | executeApprovedAction actionId =>
        obtain ⟨action, stored, approved, owner, rfl⟩ :=
          ServiceCall.evaluated?_executeApprovedAction_eq_some_iff.mp
            evaluated
        exact (elsewhere ⟨actionId, action, rfl, stored, approved,
          owner, denied⟩).elim

end Refusals

/--
In every run and for every next call, a policy refusal is audited unless it
happens at the execution of an approved action.
-/
theorem refusalAudited_iff
    (engine : IPolicyEngine)
    (commands : List ServiceCommand)
    (environment : Environment)
    (profile : McpClientProfile)
    (call : ServiceCall) :
    RefusalAudited
        ((applicationMachine engine).state commands).desktop.service
        engine environment profile call ↔
      ¬ RefusedAtExecution
        ((applicationMachine engine).state commands).desktop.service
        engine profile call :=
  refusalAudited_iff_not_refusedAtExecution

/-- A client prepares a message and the operator approves it. -/
def preparedAndApproved : List ServiceCommand :=
  [.write (.prepareSendMessage { random := zeroRandom } writerProfile
      (bytes "work") 42 (bytes "hello")),
    .write (.approve ticksPerSecond zeroId)]

/-- The profile of the client once its writes are denied. -/
def readOnlyWriter : McpClientProfile :=
  { writerProfile with writePolicy := .deny }

/--
Between approval and execution the profile stops allowing writes: the execution
is refused and leaves no trace.
-/
theorem refusal_at_execution_unaudited :
    ¬ RefusalAudited
        ((applicationMachine policyEngine).state
          preparedAndApproved).desktop.service
        policyEngine { now := 2 * ticksPerSecond } readOnlyWriter
        (.executeApprovedAction zeroId) := by
  intro audited
  exact refusalAudited_iff_not_refusedAtExecution.mp audited
    ⟨zeroId, approvedAction, rfl, rfl, rfl, rfl, by decide⟩

end TgGate
