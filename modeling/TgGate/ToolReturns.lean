import TgGate.ExternalText
import TgGate.OperatorDisplay

namespace TgGate

open Library

/-!
# What the tools return

Every tool call ends in one of a few responses, each of which says whether it
succeeded, or in an exception.  From valid texts that are too short to be cut
the tools make responses that can be serialised, and from collaborators that
return no exceptions but those of the JSON library.
-/

/-- A valid text that `sanitizeExternalText` does not cut. -/
structure ShortText (text : Bytes) : Prop where
  valid : ValidUtf8 text
  short :
    text.length ≤ TelegramApplicationService.kMaximumExternalTextBytes

/-- What a port may return: valid, short texts. -/
structure ShortTexts (telegram : ITelegramService) : Prop where
  titles :
    ∀ {accountId chats},
      telegram.listChats accountId = .ok (.value chats) →
      ∀ chat ∈ chats, ShortText chat.title
  texts :
    ∀ {accountId chatId limit messages},
      telegram.getMessages accountId chatId limit =
          .ok (.value messages) →
      ∀ message ∈ messages, ShortText message.text
  chatErrors :
    ∀ {accountId message},
      telegram.listChats accountId = .ok (.error message) →
      ShortText message
  messageErrors :
    ∀ {accountId chatId limit message},
      telegram.getMessages accountId chatId limit =
          .ok (.error message) →
      ShortText message
  sendErrors :
    ∀ {accountId chatId text message},
      telegram.sendMessage accountId chatId text =
          .ok (.error message) →
      ShortText message

/-- Neither the port nor the random generator throws. -/
structure CollaboratorsReturn (environment : Environment) : Prop where
  random : environment.random ≠ none
  listChats :
    ∀ accountId, ∃ result,
      environment.telegram.listChats accountId = .ok result
  getMessages :
    ∀ accountId chatId limit, ∃ result,
      environment.telegram.getMessages accountId chatId limit =
        .ok result
  sendMessage :
    ∀ accountId chatId text, ∃ result,
      environment.telegram.sendMessage accountId chatId text =
        .ok result

/-- A response that says whether it succeeded. -/
def Flagged (response : Json) : Prop :=
  ∃ flag, response.find? (bytes "ok") = some (.boolean flag)

/-- A text that is short stays valid when it is sanitised. -/
theorem ShortText.sanitized
    {text : Bytes}
    (short : ShortText text) :
    ValidUtf8
      (TelegramApplicationService.sanitizeExternalText text) := by
  rw [validUtf8_sanitizeExternalText_iff short.valid]
  intro byte beyond
  have kept : (keptText text).length ≤ text.length :=
    List.length_filter_le _ _
  rw [List.getElem?_eq_none (kept.trans short.short)] at beyond
  cases beyond

/-- An id consists of hexadecimal digits. -/
theorem validUtf8_of_createSecureId
    {random : RandomBytes}
    {id : Bytes}
    (created : createSecureId random = .ok id) :
    ValidUtf8 id := by
  have digit : ∀ index : Nat, kHex.getD index 0 < 0x80 := by
    intro index
    have ascii : ∀ byte ∈ kHex, byte < 0x80 := by
      decide +kernel
    rw [List.getD_eq_getElem?_getD]
    cases found : kHex[index]? with
    | none =>
        decide
    | some byte =>
        exact ascii byte (List.mem_of_getElem? found)
  cases random with
  | none =>
      cases created
  | some random =>
      obtain rfl := Except.ok.inj created
      refine validUtf8_of_ascii fun byte member => ?_
      obtain ⟨source, -, isDigit⟩ := List.mem_flatMap.mp member
      simp only [List.mem_cons, List.not_mem_nil, or_false] at isDigit
      rcases isDigit with rfl | rfl
      · exact digit _
      · exact digit _

namespace TelegramApplicationService

/-- The production engine gives its reasons in valid texts. -/
theorem validUtf8_reason
    (profile : McpClientProfile)
    (invocation : ToolInvocation) :
    ValidUtf8 (PolicyEngine.evaluate profile invocation).reason := by
  unfold PolicyEngine.evaluate
  split
  · exact validUtf8_bytes _
  · split
    · exact validUtf8_bytes _
    · split
      · exact validUtf8_bytes _
      · split
        · exact validUtf8_bytes _
        · split
          · exact validUtf8_bytes _
          · split <;> exact validUtf8_bytes _

/-- What the tools return. -/
inductive ToolReturn
    (engine : IPolicyEngine)
    (environment : Environment)
    (profile : McpClientProfile) : Json → Prop
  | refused (invocation : ToolInvocation) :
      ToolReturn engine environment profile
        (error (engine.evaluate profile invocation).reason)
  | told (message : String) :
      ToolReturn engine environment profile (error (bytes message))
  | chatFailure
      {accountId message : Bytes}
      (failed :
        environment.telegram.listChats accountId =
          .ok (.error message)) :
      ToolReturn engine environment profile (error message)
  | messageFailure
      {accountId message : Bytes}
      {chatId : Int64}
      {limit : UInt64}
      (failed :
        environment.telegram.getMessages accountId chatId limit =
          .ok (.error message)) :
      ToolReturn engine environment profile (error message)
  | sendFailure
      {accountId text message : Bytes}
      {chatId : Int64}
      (failed :
        environment.telegram.sendMessage accountId chatId text =
          .ok (.error message)) :
      ToolReturn engine environment profile (error message)
  | chats
      {accountId : Bytes}
      {returned shown : List Chat}
      (listed :
        environment.telegram.listChats accountId = .ok (.value returned))
      (isReturned : ∀ chat ∈ shown, chat ∈ returned) :
      ToolReturn engine environment profile
        (.ofMembers
          [(bytes "ok", .boolean true),
            (bytes "chats", .array (shown.map chatJson))])
  | messages
      {accountId : Bytes}
      {chatId : Int64}
      {limit : UInt64}
      {returned : List Message}
      (read :
        environment.telegram.getMessages accountId chatId limit =
          .ok (.value returned)) :
      ToolReturn engine environment profile (messagesResult returned)
  | prepared
      {id : Bytes}
      (created : createSecureId environment.random = .ok id)
      (expiresAt : Int64) :
      ToolReturn engine environment profile
        (.ofMembers
          [(bytes "ok", .boolean true),
            (bytes "action_id", .string id),
            (bytes "expires_at", .numberInteger expiresAt),
            (bytes "status",
              .string (bytes "pending_local_approval"))])
  | sent (messageId chatId : Int64) :
      ToolReturn engine environment profile
        (.ofMembers
          [(bytes "ok", .boolean true),
            (bytes "message_id", .numberInteger messageId),
            (bytes "chat_id", .numberInteger chatId)])

section Responses

variable {service : TelegramApplicationService}
variable {engine : IPolicyEngine}
variable {environment : Environment}
variable {profile : McpClientProfile}
variable {accountId : Bytes}
variable {response : Json}

/-- Every tool says whether it succeeded. -/
theorem ToolReturn.flagged
    (returned : ToolReturn engine environment profile response) :
    Flagged response := by
  cases returned with
  | refused | told | chatFailure | messageFailure | sendFailure =>
      exact ⟨false, by simp [error]⟩
  | chats | messages | prepared | sent =>
      exact ⟨true, by simp [messagesResult]⟩

theorem validText_error
    {message : Bytes}
    (valid : ValidUtf8 message) :
    (error message).ValidText := by
  refine Json.validText_ofMembers ?_
  simp [validUtf8_bytes, valid]

/-- From short texts the tools make texts that can be serialised. -/
theorem ToolReturn.validText
    (backend : ShortTexts environment.telegram)
    (returned : ToolReturn policyEngine environment profile response) :
    response.ValidText := by
  cases returned with
  | refused invocation =>
      exact validText_error (validUtf8_reason profile invocation)
  | told message =>
      exact validText_error (validUtf8_bytes message)
  | chatFailure failed =>
      exact validText_error (backend.chatErrors failed).valid
  | messageFailure failed =>
      exact validText_error (backend.messageErrors failed).valid
  | sendFailure failed =>
      exact validText_error (backend.sendErrors failed).valid
  | @chats accountId returned shown listed isReturned =>
      rw [validText_listing_iff (by decide), List.forall_mem_map]
      intro chat member
      exact validText_chatJson_iff.mpr
        (backend.titles listed chat (isReturned chat member)).valid
  | @messages accountId chatId limit returned read =>
      rw [messagesResult, validText_listing_iff (by decide),
        List.forall_mem_map]
      intro message member
      exact validText_messageJson_iff.mpr
        (backend.texts read message member).sanitized
  | prepared created expiresAt =>
      refine Json.validText_ofMembers ?_
      simp [validUtf8_bytes, validUtf8_of_createSecureId created]
  | sent messageId chatId =>
      refine Json.validText_ofMembers ?_
      simp [validUtf8_bytes]

theorem toolReturn_listChats
    (answered :
      (service.listChats engine environment profile accountId).1 =
        .ok response) :
    ToolReturn engine environment profile response := by
  simp only [listChats] at answered
  split at answered
  · obtain rfl := Except.ok.inj answered
    exact .refused _
  · split at answered
    · cases answered
    · next message failed =>
        obtain rfl := Except.ok.inj answered
        exact .chatFailure failed
    · next chats listed =>
        obtain rfl := Except.ok.inj answered
        exact .chats listed fun chat member =>
          List.mem_of_mem_filter member

theorem toolReturn_getMessages
    {chatId : Int64}
    {limit : UInt64}
    (answered :
      (service.getMessages engine environment profile accountId chatId
        limit).1 = .ok response) :
    ToolReturn engine environment profile response := by
  simp only [getMessages] at answered
  split at answered
  · obtain rfl := Except.ok.inj answered
    exact .refused _
  · split at answered
    · cases answered
    · next message failed =>
        obtain rfl := Except.ok.inj answered
        exact .messageFailure failed
    · next messages read =>
        obtain rfl := Except.ok.inj answered
        exact .messages read

theorem toolReturn_prepareSendMessage
    {chatId : Int64}
    {text : Bytes}
    (answered :
      (service.prepareSendMessage engine environment profile accountId
        chatId text).1 = .ok response) :
    ToolReturn engine environment profile response := by
  simp only [prepareSendMessage] at answered
  split at answered
  · obtain rfl := Except.ok.inj answered
    exact .told _
  · split at answered
    · obtain rfl := Except.ok.inj answered
      exact .refused _
    · simp only [ApprovalService.prepare] at answered
      cases created : createSecureId environment.random with
      | error thrown =>
          rw [created] at answered
          cases answered
      | ok id =>
          rw [created] at answered
          obtain rfl := Except.ok.inj answered
          exact .prepared created _

theorem toolReturn_executeApprovedAction
    {actionId : Bytes}
    (answered :
      (service.executeApprovedAction engine environment profile
        actionId).1 = .ok response) :
    ToolReturn engine environment profile response := by
  simp only [executeApprovedAction, sendApproved] at answered
  split at answered
  · obtain rfl := Except.ok.inj answered
    exact .told _
  · split at answered
    · cases answered
    · split at answered
      · cases answered
      · split at answered
        · cases answered
        · next message failed =>
            obtain rfl := Except.ok.inj answered
            exact .sendFailure failed
        · obtain rfl := Except.ok.inj answered
          exact .sent _ _

/-- Whatever is thrown is an exception of the JSON library. -/
def ThrowsJsonOnly
    {Value : Type}
    (outcome : Except Exception Value) : Prop :=
  ∀ thrown,
    outcome = .error thrown → ∃ exception, thrown = .json exception

theorem throwsJsonOnly_ok
    {Value : Type}
    (value : Value) :
    ThrowsJsonOnly (.ok value) := by
  intro thrown impossible
  cases impossible

theorem throwsJsonOnly_listChats
    (returns : CollaboratorsReturn environment) :
    ThrowsJsonOnly
      (service.listChats policyEngine environment profile
        accountId).1 := by
  obtain ⟨result, returned⟩ := returns.listChats accountId
  simp only [listChats, returned]
  split
  · exact throwsJsonOnly_ok _
  · cases result <;> exact throwsJsonOnly_ok _

theorem throwsJsonOnly_getMessages
    {chatId : Int64}
    {limit : UInt64}
    (returns : CollaboratorsReturn environment) :
    ThrowsJsonOnly
      (service.getMessages policyEngine environment profile accountId
        chatId limit).1 := by
  obtain ⟨result, returned⟩ :=
    returns.getMessages accountId chatId (min limit kMaximumMessages)
  simp only [getMessages, returned]
  split
  · exact throwsJsonOnly_ok _
  · cases result <;> exact throwsJsonOnly_ok _

theorem throwsJsonOnly_prepareSendMessage
    {chatId : Int64}
    {text : Bytes}
    (returns : CollaboratorsReturn environment) :
    ThrowsJsonOnly
      (service.prepareSendMessage policyEngine environment profile
        accountId chatId text).1 := by
  obtain ⟨random, supplied⟩ :=
    Option.ne_none_iff_exists'.mp returns.random
  simp only [prepareSendMessage, ApprovalService.prepare, supplied]
  split
  · exact throwsJsonOnly_ok _
  · split
    · exact throwsJsonOnly_ok _
    · exact throwsJsonOnly_ok _

theorem throwsJsonOnly_executeApprovedAction
    {actionId : Bytes}
    (returns : CollaboratorsReturn environment)
    (stored :
      ∀ {action},
        service.approvals.lookup actionId = some action →
        action.invocation.chatId ≠ none) :
    ThrowsJsonOnly
      (service.executeApprovedAction policyEngine environment profile
        actionId).1 := by
  have taken :=
    service.approvals.takeApprovedForExecution_fst environment.now
      actionId profile policyEngine
  simp only [executeApprovedAction, takeForExecution]
  generalize service.approvals.takeApprovedForExecution environment.now
    actionId profile policyEngine = outcome at taken ⊢
  rcases outcome with ⟨found, approvals⟩
  cases found with
  | none =>
      exact throwsJsonOnly_ok _
  | some action =>
      obtain ⟨original, isStored, isTaken⟩ :=
        Option.bind_eq_some_iff.mp taken.symm
      have sameChat :
          action.invocation.chatId = original.invocation.chatId := by
        split at isTaken
        · rw [← Option.some.inj isTaken]
          rfl
        · cases isTaken
      obtain ⟨chatId, hasChat⟩ :=
        Option.ne_none_iff_exists'.mp (stored isStored)
      simp only [sendApproved, sameChat, hasChat]
      cases action.arguments.stringAt (bytes "text") with
      | error exception =>
          intro thrown same
          cases same
          exact ⟨exception, rfl⟩
      | ok text =>
          obtain ⟨result, returned⟩ :=
            returns.sendMessage action.invocation.accountId chatId text
          simp only [returned]
          cases result <;> exact throwsJsonOnly_ok _

end Responses

end TelegramApplicationService

namespace HandlerContext

open TelegramApplicationService

variable {context : HandlerContext}
variable {service : TelegramApplicationService}

/-- The actions of a store have a chat to send to. -/
def StoresChats (service : TelegramApplicationService) : Prop :=
  ∀ {actionId action},
    service.approvals.lookup actionId = some action →
    action.invocation.chatId ≠ none

/-- Converted arguments reach the service. -/
theorem withArguments_fst
    {Arguments : Type}
    {converted : Except JsonException Arguments}
    {call :
      Arguments →
        Except Exception Json × TelegramApplicationService} :
    (withArguments service converted call).1 =
      match converted with
      | .error thrown => .error (.json thrown)
      | .ok arguments => (call arguments).1.map some := by
  cases converted <;> rfl

/-- A call on converted arguments returns what the service returns. -/
theorem exists_of_withArguments
    {Arguments : Type}
    {converted : Except JsonException Arguments}
    {call :
      Arguments →
        Except Exception Json × TelegramApplicationService}
    {response : Json}
    (called :
      (withArguments service converted call).1 =
        .ok (some response)) :
    ∃ arguments, (call arguments).1 = .ok response := by
  rw [withArguments_fst] at called
  cases converted with
  | error thrown =>
      cases called
  | ok arguments =>
      refine ⟨arguments, ?_⟩
      cases answered : (call arguments).1 with
      | error thrown =>
          simp [answered] at called
          cases called
      | ok value =>
          simp only [answered] at called
          cases called
          rfl

/-- A call throws what the conversion or the service throws. -/
theorem throwsJsonOnly_withArguments
    {Arguments : Type}
    {converted : Except JsonException Arguments}
    {call :
      Arguments →
        Except Exception Json × TelegramApplicationService}
    (contained :
      ∀ arguments, ThrowsJsonOnly (call arguments).1) :
    ThrowsJsonOnly (withArguments service converted call).1 := by
  rw [withArguments_fst]
  cases converted with
  | error exception =>
      intro thrown same
      cases same
      exact ⟨exception, rfl⟩
  | ok arguments =>
      intro thrown same
      refine contained arguments thrown ?_
      cases answered : (call arguments).1 with
      | error other =>
          simp only [answered] at same
          cases same
          rfl
      | ok value =>
          simp only [answered] at same
          cases same

/-- What a tool call returns is what a tool returns. -/
theorem toolReturn_callTool
    {name : Bytes}
    {arguments response : Json}
    (called :
      (context.callTool service name arguments).1 =
        .ok (some response)) :
    ToolReturn context.policyEngine context.environment context.profile
      response := by
  simp only [callTool] at called
  split at called
  · obtain ⟨accountId, answered⟩ := exists_of_withArguments called
    exact toolReturn_listChats answered
  · split at called
    · obtain ⟨⟨accountId, chatId, limit⟩, answered⟩ :=
        exists_of_withArguments called
      exact toolReturn_getMessages answered
    · split at called
      · obtain ⟨⟨accountId, chatId, text⟩, answered⟩ :=
          exists_of_withArguments called
        exact toolReturn_prepareSendMessage answered
      · split at called
        · obtain ⟨actionId, answered⟩ :=
            exists_of_withArguments called
          exact toolReturn_executeApprovedAction answered
        · cases called

/-- What a production tool returns for short texts can be serialised. -/
theorem validText_callTool
    {name : Bytes}
    {arguments response : Json}
    (production : context.policyEngine = TgGate.policyEngine)
    (backend : ShortTexts context.environment.telegram)
    (called :
      (context.callTool service name arguments).1 =
        .ok (some response)) :
    response.ValidText := by
  have returned := toolReturn_callTool called
  rw [production] at returned
  exact returned.validText backend

/-- A tool call throws exceptions of the JSON library only. -/
theorem throwsJsonOnly_callTool
    {name : Bytes}
    {arguments : Json}
    (production : context.policyEngine = TgGate.policyEngine)
    (returns : CollaboratorsReturn context.environment)
    (stored : StoresChats service) :
    ThrowsJsonOnly (context.callTool service name arguments).1 := by
  simp only [callTool, production]
  split
  · exact throwsJsonOnly_withArguments fun accountId =>
      throwsJsonOnly_listChats returns
  · split
    · exact throwsJsonOnly_withArguments fun converted =>
        throwsJsonOnly_getMessages returns
    · split
      · exact throwsJsonOnly_withArguments fun converted =>
          throwsJsonOnly_prepareSendMessage returns
      · split
        · exact throwsJsonOnly_withArguments fun actionId =>
            throwsJsonOnly_executeApprovedAction returns stored
        · exact throwsJsonOnly_ok _

end HandlerContext

end TgGate
