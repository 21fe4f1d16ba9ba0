import TgGate.ApprovalService

namespace TgGate

open Library

/-!
# The Telegram application service

`TelegramApplicationService` is the only user of the Telegram port.  Its state
is what its collaborators keep: the approval store and the audit log.  A ghost
field records every call of the port, in order.

The port is a parameter that may answer anything or throw.  Clock readings,
random bytes and port belong to the single call and are bundled in an
`Environment`.

`executeApprovedAction` is split where the source leaves the approval mutex:
the action is taken first and sent afterwards, and other requests may run in
between.
-/

/-- A chat as the backend reports it. -/
structure Chat where
  id : Int64 := 0
  title : Bytes := []

/-- A message as the backend reports it. -/
structure Message where
  id : Int64 := 0
  chatId : Int64 := 0
  text : Bytes := []

/-- A value or the text of an error. -/
inductive Result (Value : Type) where
  | value (value : Value)
  | error (message : Bytes)

/-- The Telegram port; an implementation may also throw. -/
structure ITelegramService where
  listChats : Bytes → Except Exception (Result (List Chat))
  getMessages :
    Bytes → Int64 → UInt64 → Except Exception (Result (List Message))
  sendMessage :
    Bytes → Int64 → Bytes → Except Exception (Result Message)

/-- The port of a process without a configured account. -/
def unavailableTelegramService : ITelegramService where
  listChats _ :=
    .ok (.error (bytes "TDLib account is not configured"))
  getMessages _ _ _ :=
    .ok (.error (bytes "TDLib account is not configured"))
  sendMessage _ _ _ :=
    .ok (.error (bytes "TDLib account is not configured"))

/-- One call of the Telegram port. -/
inductive TelegramCall where
  | listChats (accountId : Bytes)
  | getMessages (accountId : Bytes) (chatId : Int64) (limit : UInt64)
  | sendMessage (accountId : Bytes) (chatId : Int64) (text : Bytes)
  deriving DecidableEq

/-- Metadata of one request; deliberately no message text. -/
structure AuditEntry where
  timestamp : TimePoint
  clientId : Bytes
  accountId : Bytes
  toolName : Bytes
  chatId : Option Int64
  decision : PolicyEffect
  resultStatus : Bytes
  actionId : Option Bytes

/-- What one call meets of the outside world. -/
structure Environment where
  telegram : ITelegramService := unavailableTelegramService
  random : RandomBytes := none
  now : TimePoint := 0
  auditNow : TimePoint := 0

/-- The state behind the application service. -/
structure TelegramApplicationService where
  approvals : ApprovalService := {}
  auditEntries : List AuditEntry := []
  telegramCalls : List TelegramCall := []

namespace TelegramApplicationService

/-- How external content is marked in responses. -/
def kExternalTrust : Bytes := bytes "untrusted_external_content"

/-- External texts are cut after this many bytes. -/
def kMaximumExternalTextBytes : Nat := 8 * 1024

/-- Port calls ask for at most this many messages. -/
def kMaximumMessages : UInt64 := 100

/-- A failed request. -/
def error (message : Bytes) : Json :=
  .ofMembers
    [(bytes "ok", .boolean false),
      (bytes "error", .string message)]

/-- Drop control characters other than newline and tab, and truncate. -/
def sanitizeExternalText (text : Bytes) : Bytes :=
  let text :=
    text.filter fun character =>
      !(character < 0x20 && character ≠ 10 && character ≠ 9)
  if text.length > kMaximumExternalTextBytes then
    text.take kMaximumExternalTextBytes ++ bytes "… [truncated]"
  else
    text

/-- The response item of a chat. -/
def chatJson (chat : Chat) : Json :=
  .ofMembers
    [(bytes "id", .numberInteger chat.id),
      (bytes "title", .string chat.title),
      (bytes "source", .string (bytes "telegram")),
      (bytes "trust", .string kExternalTrust)]

/-- The response item of a message. -/
def messageJson (message : Message) : Json :=
  .ofMembers
    [(bytes "id", .numberInteger message.id),
      (bytes "chat_id", .numberInteger message.chatId),
      (bytes "text", .string (sanitizeExternalText message.text)),
      (bytes "source", .string (bytes "telegram")),
      (bytes "trust", .string kExternalTrust)]

/-- Record the metadata of a request. -/
def audit
    (service : TelegramApplicationService)
    (environment : Environment)
    (profile : McpClientProfile)
    (invocation : ToolInvocation)
    (decision : PolicyEffect)
    (resultStatus : Bytes)
    (actionId : Option Bytes := none) : TelegramApplicationService :=
  { service with
    auditEntries :=
      service.auditEntries ++
        [{ timestamp := environment.auditNow
           clientId := profile.id
           accountId := invocation.accountId
           toolName := invocation.toolName
           chatId := invocation.chatId
           decision := decision
           resultStatus := resultStatus
           actionId := actionId }] }

/-- Refuse a request and record the refusal. -/
def denyAndAudit
    (service : TelegramApplicationService)
    (environment : Environment)
    (profile : McpClientProfile)
    (invocation : ToolInvocation)
    (decision : PolicyDecision) :
    Except Exception Json × TelegramApplicationService :=
  (.ok (error decision.reason),
    service.audit environment profile invocation decision.effect
      (bytes "denied"))

/-- Note a call of the Telegram port. -/
def noteCall
    (service : TelegramApplicationService)
    (call : TelegramCall) : TelegramApplicationService :=
  { service with telegramCalls := service.telegramCalls ++ [call] }

/-- List the chats of an account that the profile may see. -/
def listChats
    (service : TelegramApplicationService)
    (engine : IPolicyEngine)
    (environment : Environment)
    (profile : McpClientProfile)
    (accountId : Bytes) :
    Except Exception Json × TelegramApplicationService :=
  let invocation : ToolInvocation := {
    toolName := bytes "telegram_list_chats"
    accountId := accountId
  }
  let decision := engine.evaluate profile invocation
  if !decision.isAllowed then
    service.denyAndAudit environment profile invocation decision
  else
    let service := service.noteCall (.listChats accountId)
    match environment.telegram.listChats accountId with
    | .error thrown => (.error thrown, service)
    | .ok (.error message) =>
        (.ok (error message),
          service.audit environment profile invocation decision.effect
            (bytes "error"))
    | .ok (.value chats) =>
        -- A backend must still omit chats that are not allowlisted.
        let result :=
          (chats.filter fun chat =>
            contains profile.allowedChats chat.id).map chatJson
        (.ok (.ofMembers
            [(bytes "ok", .boolean true),
              (bytes "chats", .array result)]),
          service.audit environment profile invocation decision.effect
            (bytes "ok"))

/-- Read messages of one chat. -/
def getMessages
    (service : TelegramApplicationService)
    (engine : IPolicyEngine)
    (environment : Environment)
    (profile : McpClientProfile)
    (accountId : Bytes)
    (chatId : Int64)
    (limit : UInt64) :
    Except Exception Json × TelegramApplicationService :=
  let invocation : ToolInvocation := {
    toolName := bytes "telegram_get_messages"
    accountId := accountId
    chatId := some chatId
  }
  let decision := engine.evaluate profile invocation
  if !decision.isAllowed then
    service.denyAndAudit environment profile invocation decision
  else
    let limit := min limit kMaximumMessages
    let service := service.noteCall (.getMessages accountId chatId limit)
    match environment.telegram.getMessages accountId chatId limit with
    | .error thrown => (.error thrown, service)
    | .ok (.error message) =>
        (.ok (error message),
          service.audit environment profile invocation decision.effect
            (bytes "error"))
    | .ok (.value messages) =>
        (.ok (.ofMembers
            [(bytes "ok", .boolean true),
              (bytes "messages", .array (messages.map messageJson))]),
          service.audit environment profile invocation decision.effect
            (bytes "ok"))

/-- The invocation a prepared message is stored with. -/
def sendInvocation (accountId : Bytes) (chatId : Int64) : ToolInvocation where
  toolName := bytes "telegram_prepare_send_message"
  accountId := accountId
  chatId := some chatId
  isWrite := true

/-- The arguments a prepared message is stored with. -/
def sendArguments (text : Bytes) : Json :=
  .ofMembers [(bytes "text", .string text)]

/-- Store a message that waits for the operator. -/
def prepareSendMessage
    (service : TelegramApplicationService)
    (engine : IPolicyEngine)
    (environment : Environment)
    (profile : McpClientProfile)
    (accountId : Bytes)
    (chatId : Int64)
    (text : Bytes) :
    Except Exception Json × TelegramApplicationService :=
  if text.isEmpty || text.length > 4096 then
    (.ok (error (bytes "Message must contain 1..4096 bytes")), service)
  else
    let invocation := sendInvocation accountId chatId
    let decision := engine.evaluate profile invocation
    if decision.effect = .deny then
      service.denyAndAudit environment profile invocation decision
    else
      match service.approvals.prepare environment.now environment.random
          profile.id invocation (sendArguments text) with
      | (.error thrown, approvals) =>
          (.error thrown, { service with approvals := approvals })
      | (.ok action, approvals) =>
          let service := { service with approvals := approvals }
          (.ok (.ofMembers
              [(bytes "ok", .boolean true),
                (bytes "action_id", .string action.id),
                (bytes "expires_at",
                  .numberInteger (Int64.ofInt action.expiresAt)),
                (bytes "status",
                  .string (bytes "pending_local_approval"))]),
            service.audit environment profile invocation decision.effect
              (bytes "prepared") (some action.id))

/-- The answer to a request whose action cannot be taken. -/
def notExecutable : Json :=
  error (bytes
    ("Action is absent, not approved, expired, already executed, " ++
      "or no longer allowed"))

/-- The first half of `execute_approved_action`, under the approval mutex. -/
def takeForExecution
    (service : TelegramApplicationService)
    (engine : IPolicyEngine)
    (environment : Environment)
    (profile : McpClientProfile)
    (actionId : Bytes) :
    Option PendingAction × TelegramApplicationService :=
  let (action, approvals) :=
    service.approvals.takeApprovedForExecution environment.now actionId
      profile engine
  (action, { service with approvals := approvals })

/-- The second half: send the message of an action that was taken. -/
def sendApproved
    (service : TelegramApplicationService)
    (environment : Environment)
    (profile : McpClientProfile)
    (action : PendingAction) :
    Except Exception Json × TelegramApplicationService :=
  match action.invocation.chatId with
  | none => (.error .undefinedBehaviour, service)
  | some chatId =>
      match action.arguments.stringAt (bytes "text") with
      | .error thrown => (.error (.json thrown), service)
      | .ok text =>
          let accountId := action.invocation.accountId
          let service :=
            service.noteCall (.sendMessage accountId chatId text)
          match environment.telegram.sendMessage accountId chatId
              text with
          | .error thrown => (.error thrown, service)
          | .ok (.error message) =>
              (.ok (error message),
                service.audit environment profile action.invocation
                  .allow (bytes "error") (some action.id))
          | .ok (.value response) =>
              (.ok (.ofMembers
                  [(bytes "ok", .boolean true),
                    (bytes "message_id", .numberInteger response.id),
                    (bytes "chat_id", .numberInteger response.chatId)]),
                service.audit environment profile action.invocation
                  .allow (bytes "ok") (some action.id))

/-- Execute an action the operator approved. -/
def executeApprovedAction
    (service : TelegramApplicationService)
    (engine : IPolicyEngine)
    (environment : Environment)
    (profile : McpClientProfile)
    (actionId : Bytes) :
    Except Exception Json × TelegramApplicationService :=
  match service.takeForExecution engine environment profile actionId with
  | (none, service) => (.ok notExecutable, service)
  | (some action, service) =>
      service.sendApproved environment profile action

/-!
## What a request does to the approval store and the port

The store and the ghost record are all later modules need of the new state.
-/

/-- A prepared message passes both checks. -/
structure AcceptsMessage
    (engine : IPolicyEngine)
    (profile : McpClientProfile)
    (accountId : Bytes)
    (chatId : Int64)
    (text : Bytes) : Prop where
  nonempty :
    1 ≤ text.length
  bounded :
    text.length ≤ 4096
  permitted :
    (engine.evaluate profile (sendInvocation accountId chatId)).effect ≠
      .deny

instance
    (engine : IPolicyEngine)
    (profile : McpClientProfile)
    (accountId : Bytes)
    (chatId : Int64)
    (text : Bytes) :
    Decidable (AcceptsMessage engine profile accountId chatId text) :=
  decidable_of_iff
    (1 ≤ text.length ∧ text.length ≤ 4096 ∧
      (engine.evaluate profile
        (sendInvocation accountId chatId)).effect ≠ .deny)
    ⟨fun ⟨nonempty, bounded, permitted⟩ =>
        ⟨nonempty, bounded, permitted⟩,
      fun ⟨nonempty, bounded, permitted⟩ =>
        ⟨nonempty, bounded, permitted⟩⟩

/-- The port call made for a taken action. -/
def sendCall? (action : PendingAction) : Option TelegramCall :=
  match action.invocation.chatId with
  | none => none
  | some chatId =>
      match action.arguments.stringAt (bytes "text") with
      | .error _ => none
      | .ok text =>
          some (.sendMessage action.invocation.accountId chatId text)

/-- The port call of a stored message. -/
theorem sendCall?_of_arguments
    {action : PendingAction}
    {chatId : Int64}
    {text : Bytes}
    (chat : action.invocation.chatId = some chatId)
    (arguments :
      action.arguments = sendArguments text) :
    sendCall? action =
      some (.sendMessage action.invocation.accountId chatId text) := by
  have stringAt :
      (sendArguments text).stringAt
          (bytes "text") =
        .ok text := by
    simp [sendArguments]
  simp only [sendCall?, chat, arguments,
    stringAt]

section Effects

variable
  (service : TelegramApplicationService)
  (engine : IPolicyEngine)
  (environment : Environment)
  (profile : McpClientProfile)

@[simp] theorem approvals_listChats (accountId : Bytes) :
    (service.listChats engine environment profile accountId).2.approvals =
      service.approvals := by
  simp only [listChats]
  split
  · rfl
  · split <;> rfl

@[simp] theorem approvals_getMessages
    (accountId : Bytes)
    (chatId : Int64)
    (limit : UInt64) :
    (service.getMessages engine environment profile
        accountId chatId limit).2.approvals =
      service.approvals := by
  simp only [getMessages]
  split
  · rfl
  · split <;> rfl

/-- A denied request never reaches the port. -/
theorem telegramCalls_listChats_of_denied
    {accountId : Bytes}
    (denied :
      (engine.evaluate profile
        { toolName := bytes "telegram_list_chats"
          accountId := accountId }).effect = .deny) :
    (service.listChats engine environment profile
        accountId).2.telegramCalls =
      service.telegramCalls := by
  simp [listChats, PolicyDecision.isAllowed, denied, denyAndAudit, audit]

/-- A denied request never reaches the port. -/
theorem telegramCalls_getMessages_of_denied
    {accountId : Bytes}
    {chatId : Int64}
    {limit : UInt64}
    (denied :
      (engine.evaluate profile
        { toolName := bytes "telegram_get_messages"
          accountId := accountId
          chatId := some chatId }).effect = .deny) :
    (service.getMessages engine environment profile
        accountId chatId limit).2.telegramCalls =
      service.telegramCalls := by
  simp [getMessages, PolicyDecision.isAllowed, denied, denyAndAudit,
    audit]

/-- Preparing reaches the store exactly when the message is accepted. -/
theorem approvals_prepareSendMessage
    (accountId : Bytes)
    (chatId : Int64)
    (text : Bytes) :
    (service.prepareSendMessage engine environment profile
        accountId chatId text).2.approvals =
      if AcceptsMessage engine profile accountId chatId text then
        (service.approvals.prepare environment.now environment.random
          profile.id (sendInvocation accountId chatId)
          (sendArguments text)).2
      else
        service.approvals := by
  simp only [prepareSendMessage]
  by_cases accepted :
      AcceptsMessage engine profile accountId chatId text
  · obtain ⟨nonempty, bounded, permitted⟩ := id accepted
    have positive : 0 < text.length :=
      nonempty
    have sized : (text.isEmpty || text.length > 4096) = false := by
      simpa [← List.length_pos_iff] using And.intro positive bounded
    simp only [sized, Bool.false_eq_true, ↓reduceIte, permitted,
      accepted]
    cases service.approvals.prepare environment.now
        environment.random profile.id
        (sendInvocation accountId chatId) (sendArguments text) with
    | mk result approvals =>
        cases result <;> rfl
  · rw [if_neg accepted]
    split
    · rfl
    · next sized =>
        have permitted :
            (engine.evaluate profile
              (sendInvocation accountId chatId)).effect = .deny := by
          by_contra permitted
          simp only [List.isEmpty_iff, Bool.or_eq_true,
            decide_eq_true_eq, not_or, Nat.not_lt] at sized
          exact accepted
            ⟨List.length_pos_iff.mpr sized.1, sized.2, permitted⟩
        simp [permitted, denyAndAudit, audit]

@[simp] theorem telegramCalls_prepareSendMessage
    (accountId : Bytes)
    (chatId : Int64)
    (text : Bytes) :
    (service.prepareSendMessage engine environment profile
        accountId chatId text).2.telegramCalls =
      service.telegramCalls := by
  simp only [prepareSendMessage]
  split
  · rfl
  · split
    · rfl
    · split <;> rfl

@[simp] theorem telegramCalls_takeForExecution (actionId : Bytes) :
    (service.takeForExecution engine environment profile
        actionId).2.telegramCalls =
      service.telegramCalls :=
  rfl

@[simp] theorem approvals_sendApproved (action : PendingAction) :
    (service.sendApproved environment profile action).2.approvals =
      service.approvals := by
  simp only [sendApproved]
  split
  · rfl
  · split
    · rfl
    · split <;> rfl

/-- Sending a taken action makes its port call and no other. -/
theorem telegramCalls_sendApproved (action : PendingAction) :
    (service.sendApproved environment profile action).2.telegramCalls =
      service.telegramCalls ++ (sendCall? action).toList := by
  simp only [sendApproved, sendCall?]
  cases action.invocation.chatId with
  | none =>
      simp
  | some chatId =>
      simp only
      cases action.arguments.stringAt (bytes "text") with
      | error thrown =>
          simp
      | ok text =>
          simp only
          split <;> simp [noteCall, audit]

/-- Executing moves the store as taking does. -/
theorem approvals_executeApprovedAction (actionId : Bytes) :
    (service.executeApprovedAction engine environment profile
        actionId).2.approvals =
      (service.approvals.takeApprovedForExecution environment.now
        actionId profile engine).2 := by
  simp only [executeApprovedAction, takeForExecution]
  cases service.approvals.takeApprovedForExecution environment.now
      actionId profile engine with
  | mk found approvals =>
      cases found with
      | none =>
          rfl
      | some action =>
          simp

/-- A request whose action cannot be taken never reaches the port. -/
theorem telegramCalls_executeApprovedAction_of_refused
    {actionId : Bytes}
    (refused :
      (service.approvals.takeApprovedForExecution environment.now
        actionId profile engine).1 = none) :
    (service.executeApprovedAction engine environment profile
        actionId).2.telegramCalls =
      service.telegramCalls := by
  simp only [executeApprovedAction, takeForExecution]
  rw [refused]

end Effects

end TelegramApplicationService

end TgGate
