import TgGate.WritePipeline

namespace TgGate

open Library

/-!
# Runs of the application service

The write pipeline together with the two read requests: everything a client or
the operator can ask of the application service.  For each operation one lemma
says which entries it appends to the audit log.
-/

/-- One atomic step of any client request or of the operator. -/
inductive ServiceCommand where
  | listChats
      (environment : Environment)
      (profile : McpClientProfile)
      (accountId : Bytes)
  | getMessages
      (environment : Environment)
      (profile : McpClientProfile)
      (accountId : Bytes)
      (chatId : Int64)
      (limit : UInt64)
  | write (command : Command)

/-- All requests under one policy engine, starting empty. -/
def applicationMachine
    (engine : IPolicyEngine) :
    Machine WritePipeline ServiceCommand Reply where
  initial := {}
  step pipeline
    | .listChats environment profile accountId =>
        let (outcome, service) :=
          pipeline.desktop.service.listChats engine environment profile
            accountId
        (pipeline.setService service, .response outcome)
    | .getMessages environment profile accountId chatId limit =>
        let (outcome, service) :=
          pipeline.desktop.service.getMessages engine environment profile
            accountId chatId limit
        (pipeline.setService service, .response outcome)
    | .write command => (writePipeline engine).step pipeline command

namespace WritePipeline

/-- The audit log of the pipeline. -/
def auditEntries (pipeline : WritePipeline) : List AuditEntry :=
  pipeline.desktop.service.auditEntries

/-- The port calls made so far. -/
def telegramCalls (pipeline : WritePipeline) : List TelegramCall :=
  pipeline.desktop.service.telegramCalls

end WritePipeline

/-- What a command asks of the approval store. -/
def ServiceCommand.operation?
    (engine : IPolicyEngine) : ServiceCommand → Option Operation
  | .write command => command.operation? engine
  | _ => none

/-- A command moves the store by the operation it asks for. -/
theorem approvals_applicationStep
    (engine : IPolicyEngine)
    (pipeline : WritePipeline)
    (command : ServiceCommand) :
    ((applicationMachine engine).step pipeline command).1.approvals =
      approvalMachine.stateFrom pipeline.approvals
        (command.operation? engine).toList := by
  cases command with
  | listChats environment profile accountId =>
      exact TelegramApplicationService.approvals_listChats
        pipeline.desktop.service engine environment profile accountId
  | getMessages environment profile accountId chatId limit =>
      exact TelegramApplicationService.approvals_getMessages
        pipeline.desktop.service engine environment profile accountId
        chatId limit
  | write command =>
      exact approvals_step engine pipeline command

/-- How a call of the Telegram port ends. -/
inductive OutcomeKind where
  | value
  | error
  | thrown
  deriving Repr, DecidableEq

/-- Forget what a call returned and keep how it ended. -/
def outcomeKind
    {Value : Type} : Except Exception (Result Value) → OutcomeKind
  | .error _ => .thrown
  | .ok (.error _) => .error
  | .ok (.value _) => .value

/-- How the port answers a call. -/
def ITelegramService.outcome
    (telegram : ITelegramService) : TelegramCall → OutcomeKind
  | .listChats accountId => outcomeKind (telegram.listChats accountId)
  | .getMessages accountId chatId limit =>
      outcomeKind (telegram.getMessages accountId chatId limit)
  | .sendMessage accountId chatId text =>
      outcomeKind (telegram.sendMessage accountId chatId text)

/-- The audit entry of a request. -/
def auditEntry
    (environment : Environment)
    (profile : McpClientProfile)
    (invocation : ToolInvocation)
    (decision : PolicyEffect)
    (resultStatus : Bytes)
    (actionId : Option Bytes := none) : AuditEntry where
  timestamp := environment.auditNow
  clientId := profile.id
  accountId := invocation.accountId
  toolName := invocation.toolName
  chatId := invocation.chatId
  decision := decision
  resultStatus := resultStatus
  actionId := actionId

/-- The entries of a request that called the port. -/
def outcomeEntries
    (environment : Environment)
    (profile : McpClientProfile)
    (invocation : ToolInvocation)
    (decision : PolicyEffect)
    (actionId : Option Bytes) : OutcomeKind → List AuditEntry
  | .value =>
      [auditEntry environment profile invocation decision (bytes "ok")
        actionId]
  | .error =>
      [auditEntry environment profile invocation decision
        (bytes "error") actionId]
  | .thrown => []

/-- The invocation of `list_chats`. -/
def listChatsInvocation (accountId : Bytes) : ToolInvocation where
  toolName := bytes "telegram_list_chats"
  accountId := accountId

/-- The invocation of `get_messages`. -/
def getMessagesInvocation
    (accountId : Bytes)
    (chatId : Int64) : ToolInvocation where
  toolName := bytes "telegram_get_messages"
  accountId := accountId
  chatId := some chatId

/-- The entries of a read request. -/
def readEntries
    (engine : IPolicyEngine)
    (environment : Environment)
    (profile : McpClientProfile)
    (invocation : ToolInvocation)
    (outcome : OutcomeKind) : List AuditEntry :=
  let decision := engine.evaluate profile invocation
  if decision.isAllowed then
    outcomeEntries environment profile invocation decision.effect none
      outcome
  else
    [auditEntry environment profile invocation decision.effect
      (bytes "denied")]

/-- The entries of a request to prepare a message. -/
def prepareEntries
    (engine : IPolicyEngine)
    (environment : Environment)
    (profile : McpClientProfile)
    (accountId : Bytes)
    (chatId : Int64)
    (text : Bytes) : List AuditEntry :=
  if text.isEmpty || text.length > 4096 then
    []
  else
    let invocation :=
      TelegramApplicationService.sendInvocation accountId chatId
    let decision := engine.evaluate profile invocation
    if decision.effect = .deny then
      [auditEntry environment profile invocation decision.effect
        (bytes "denied")]
    else
      match createSecureId environment.random with
      | .error _ => []
      | .ok id =>
          [auditEntry environment profile invocation decision.effect
            (bytes "prepared") (some id)]

/-- The entries of sending a taken action. -/
def sendEntries
    (environment : Environment)
    (profile : McpClientProfile)
    (action : PendingAction) : List AuditEntry :=
  match TelegramApplicationService.sendCall? action with
  | none => []
  | some call =>
      outcomeEntries environment profile action.invocation .allow
        (some action.id) (environment.telegram.outcome call)

namespace TelegramApplicationService

section AuditEntries

variable
  (service : TelegramApplicationService)
  (engine : IPolicyEngine)
  (environment : Environment)
  (profile : McpClientProfile)

theorem auditEntries_listChats (accountId : Bytes) :
    (service.listChats engine environment profile
        accountId).2.auditEntries =
      service.auditEntries ++
        readEntries engine environment profile
          (listChatsInvocation accountId)
          (outcomeKind (environment.telegram.listChats accountId)) := by
  unfold readEntries
  by_cases allowed :
      (engine.evaluate profile
        (listChatsInvocation accountId)).isAllowed = true
  · have passes := allowed
    unfold listChatsInvocation at passes
    simp only [listChats, passes, allowed, Bool.not_true,
      Bool.false_eq_true, ↓reduceIte]
    rcases environment.telegram.listChats accountId with
      thrown | message | chats
    · simp [noteCall, outcomeKind, outcomeEntries]
    · rfl
    · rfl
  · have stops := allowed
    unfold listChatsInvocation at stops
    simp only [listChats, stops, allowed, Bool.not_false,
      Bool.false_eq_true, ↓reduceIte]
    rfl

/-- A permitted request calls the port once. -/
theorem telegramCalls_listChats_of_allowed
    {accountId : Bytes}
    (allowed :
      (engine.evaluate profile
        (listChatsInvocation accountId)).isAllowed = true) :
    (service.listChats engine environment profile
        accountId).2.telegramCalls =
      service.telegramCalls ++ [.listChats accountId] := by
  unfold listChatsInvocation at allowed
  simp only [listChats, allowed, Bool.not_true, Bool.false_eq_true,
    ↓reduceIte]
  split <;> rfl

theorem auditEntries_getMessages
    (accountId : Bytes)
    (chatId : Int64)
    (limit : UInt64) :
    (service.getMessages engine environment profile accountId chatId
        limit).2.auditEntries =
      service.auditEntries ++
        readEntries engine environment profile
          (getMessagesInvocation accountId chatId)
          (outcomeKind (environment.telegram.getMessages accountId
            chatId (min limit kMaximumMessages))) := by
  unfold readEntries
  by_cases allowed :
      (engine.evaluate profile
        (getMessagesInvocation accountId chatId)).isAllowed = true
  · have passes := allowed
    unfold getMessagesInvocation at passes
    simp only [getMessages, passes, allowed, Bool.not_true,
      Bool.false_eq_true, ↓reduceIte]
    rcases environment.telegram.getMessages accountId chatId
      (min limit kMaximumMessages) with thrown | message | messages
    · simp [noteCall, outcomeKind, outcomeEntries]
    · rfl
    · rfl
  · have stops := allowed
    unfold getMessagesInvocation at stops
    simp only [getMessages, stops, allowed, Bool.not_false,
      Bool.false_eq_true, ↓reduceIte]
    rfl

/-- A permitted request calls the port once. -/
theorem telegramCalls_getMessages_of_allowed
    {accountId : Bytes}
    {chatId : Int64}
    {limit : UInt64}
    (allowed :
      (engine.evaluate profile
        (getMessagesInvocation accountId chatId)).isAllowed = true) :
    (service.getMessages engine environment profile accountId chatId
        limit).2.telegramCalls =
      service.telegramCalls ++
        [.getMessages accountId chatId (min limit kMaximumMessages)] := by
  unfold getMessagesInvocation at allowed
  simp only [getMessages, allowed, Bool.not_true, Bool.false_eq_true,
    ↓reduceIte]
  split <;> rfl

theorem auditEntries_prepareSendMessage
    (accountId : Bytes)
    (chatId : Int64)
    (text : Bytes) :
    (service.prepareSendMessage engine environment profile accountId
        chatId text).2.auditEntries =
      service.auditEntries ++
        prepareEntries engine environment profile accountId chatId
          text := by
  simp only [prepareSendMessage, prepareEntries]
  split
  · simp
  · split
    · rfl
    · simp only [ApprovalService.prepare]
      cases createSecureId environment.random with
      | error thrown =>
          simp
      | ok id =>
          rfl

@[simp] theorem auditEntries_takeForExecution (actionId : Bytes) :
    (service.takeForExecution engine environment profile
        actionId).2.auditEntries =
      service.auditEntries :=
  rfl

theorem auditEntries_sendApproved (action : PendingAction) :
    (service.sendApproved environment profile action).2.auditEntries =
      service.auditEntries ++
        sendEntries environment profile action := by
  simp only [sendApproved, sendEntries, sendCall?]
  cases action.invocation.chatId with
  | none =>
      simp
  | some chatId =>
      simp only
      cases action.arguments.stringAt (bytes "text") with
      | error thrown =>
          simp
      | ok text =>
          simp only [ITelegramService.outcome]
          rcases environment.telegram.sendMessage
            action.invocation.accountId chatId text with
            thrown | message | response
          · simp [noteCall, outcomeKind, outcomeEntries]
          · rfl
          · rfl

theorem auditEntries_executeApprovedAction (actionId : Bytes) :
    (service.executeApprovedAction engine environment profile
        actionId).2.auditEntries =
      service.auditEntries ++
        match (service.approvals.takeApprovedForExecution
            environment.now actionId profile engine).1 with
        | none => []
        | some action => sendEntries environment profile action := by
  simp only [executeApprovedAction, takeForExecution]
  cases service.approvals.takeApprovedForExecution environment.now
      actionId profile engine with
  | mk found approvals =>
      cases found with
      | none =>
          simp
      | some action =>
          simp [auditEntries_sendApproved]

end AuditEntries

end TelegramApplicationService

/-- The entries a command appends to the audit log. -/
def ServiceCommand.recorded
    (engine : IPolicyEngine)
    (pipeline : WritePipeline) : ServiceCommand → List AuditEntry
  | .listChats environment profile accountId =>
      readEntries engine environment profile
        (listChatsInvocation accountId)
        (outcomeKind (environment.telegram.listChats accountId))
  | .getMessages environment profile accountId chatId limit =>
      readEntries engine environment profile
        (getMessagesInvocation accountId chatId)
        (outcomeKind (environment.telegram.getMessages accountId chatId
          (min limit TelegramApplicationService.kMaximumMessages)))
  | .write (.prepareSendMessage environment profile accountId chatId
      text) =>
      prepareEntries engine environment profile accountId chatId text
  | .write (.sendApproved environment index) =>
      match pipeline.executing[index]? with
      | none => []
      | some execution =>
          sendEntries environment execution.profile execution.action
  | .write _ => []

theorem auditEntries_step
    (engine : IPolicyEngine)
    (pipeline : WritePipeline)
    (command : ServiceCommand) :
    ((applicationMachine engine).step pipeline
        command).1.auditEntries =
      pipeline.auditEntries ++ command.recorded engine pipeline := by
  cases command with
  | listChats environment profile accountId =>
      exact TelegramApplicationService.auditEntries_listChats
        pipeline.desktop.service engine environment profile accountId
  | getMessages environment profile accountId chatId limit =>
      exact TelegramApplicationService.auditEntries_getMessages
        pipeline.desktop.service engine environment profile accountId
        chatId limit
  | write command =>
      cases command with
      | prepareSendMessage environment profile accountId chatId text =>
          exact
            TelegramApplicationService.auditEntries_prepareSendMessage
              pipeline.desktop.service engine environment profile
              accountId chatId text
      | takeForExecution environment profile actionId =>
          simp only [applicationMachine, writePipeline,
            TelegramApplicationService.takeForExecution,
            ServiceCommand.recorded, List.append_nil]
          cases pipeline.desktop.service.approvals
              |>.takeApprovedForExecution environment.now actionId
                profile engine with
          | mk found approvals =>
              cases found <;> rfl
      | sendApproved environment index =>
          simp only [applicationMachine, writePipeline,
            ServiceCommand.recorded]
          cases pipeline.executing[index]? with
          | none =>
              simp
          | some execution =>
              exact TelegramApplicationService.auditEntries_sendApproved
                pipeline.desktop.service environment execution.profile
                execution.action
      | approve | deny | lockdown =>
          simp [applicationMachine, writePipeline,
            ServiceCommand.recorded, WritePipeline.auditEntries,
            DesktopUiState.approve, DesktopUiState.deny,
            DesktopUiState.lockdown, DesktopUiState.setApprovals]

end TgGate
