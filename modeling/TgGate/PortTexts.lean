import TgGate.ToolReturns

namespace TgGate

open Library

/-!
# What the port contributes to a tool call

The answer to a tool call repeats texts of the Telegram port: titles, sanitised
messages and the texts of its errors.  Everything else in it is text of the
tools themselves.  `portTexts` collects what the port contributes, or what is
thrown there, and the answer can be serialised exactly if these texts can.
-/

namespace TelegramApplicationService

/-- The texts of an answer of the port. -/
def answerTexts
    {Value : Type}
    (texts : Value → List Bytes) :
    Except Exception (Result Value) → Except Exception (List Bytes)
  | .error thrown => .error thrown
  | .ok (.error message) => .ok [message]
  | .ok (.value value) => .ok (texts value)

/-- The titles of the chats that a profile may see. -/
def titlesFor (profile : McpClientProfile) (chats : List Chat) : List Bytes :=
  (chats.filter fun chat =>
    contains profile.allowedChats chat.id).map Chat.title

/-- The sanitised texts of messages. -/
def sanitizedTexts (messages : List Message) : List Bytes :=
  messages.map fun message => sanitizeExternalText message.text

/-- What the port contributes to a list of chats. -/
def chatTexts
    (environment : Environment)
    (profile : McpClientProfile)
    (accountId : Bytes) : Except Exception (List Bytes) :=
  if (policyEngine.evaluate profile
      { toolName := bytes "telegram_list_chats"
        accountId := accountId }).isAllowed then
    answerTexts (titlesFor profile)
      (environment.telegram.listChats accountId)
  else
    .ok []

/-- What the port contributes to a list of messages. -/
def messageTexts
    (environment : Environment)
    (profile : McpClientProfile)
    (accountId : Bytes)
    (chatId : Int64)
    (limit : UInt64) : Except Exception (List Bytes) :=
  if (policyEngine.evaluate profile
      { toolName := bytes "telegram_get_messages"
        accountId := accountId
        chatId := some chatId }).isAllowed then
    answerTexts sanitizedTexts
      (environment.telegram.getMessages accountId chatId
        (min limit kMaximumMessages))
  else
    .ok []

/-- A message is prepared under an id from the random generator. -/
def preparedTexts
    (environment : Environment)
    (profile : McpClientProfile)
    (accountId : Bytes)
    (chatId : Int64)
    (text : Bytes) : Except Exception (List Bytes) :=
  if AcceptsMessage policyEngine profile accountId chatId text then
    (createSecureId environment.random).map fun _ => []
  else
    .ok []

/-- What the port contributes to the execution of an action. -/
def sentTexts
    (service : TelegramApplicationService)
    (environment : Environment)
    (profile : McpClientProfile)
    (actionId : Bytes) : Except Exception (List Bytes) :=
  match (service.takeForExecution policyEngine environment profile
      actionId).1 with
  | none => .ok []
  | some action =>
      match action.invocation.chatId with
      | none => .error .undefinedBehaviour
      | some chatId =>
          match action.arguments.stringAt (bytes "text") with
          | .error thrown => .error (.json thrown)
          | .ok text =>
              answerTexts (fun _ => [])
                (environment.telegram.sendMessage
                  action.invocation.accountId chatId text)

/--
A call throws what its port throws, and its answer can be serialised if the
texts of the port can.
-/
inductive Conveys :
    Except Exception (Option Json) → Except Exception (List Bytes) → Prop
  | thrown (thrown : Exception) :
      Conveys (.error thrown) (.error thrown)
  | silent :
      Conveys (.ok none) (.ok [])
  | written
      {response : Json}
      {texts : List Bytes}
      (valid :
        response.ValidText ↔ ∀ text ∈ texts, ValidUtf8 text) :
      Conveys (.ok (some response)) (.ok texts)

section Tools

variable {service : TelegramApplicationService}
variable {environment : Environment}
variable {profile : McpClientProfile}
variable {accountId : Bytes}

/-- An answer with texts of its own can always be serialised. -/
theorem Conveys.plain
    {response : Json}
    (valid : response.ValidText) :
    Conveys (.ok (some response)) (.ok []) := by
  refine .written (iff_of_true valid ?_)
  intro text impossible
  cases impossible

/-- The text of an error is repeated. -/
theorem Conveys.failed (message : Bytes) :
    Conveys (.ok (some (error message))) (.ok [message]) := by
  refine .written ?_
  rw [List.forall_mem_singleton]
  refine ⟨fun valid => ?_, validText_error⟩
  have shown :
      (error message).find? (bytes "error") = some (.string message) := by
    simp [error]
  exact Json.validText_string.mp (valid.of_find? shown)

theorem Conveys.of_thrown
    {contributed : Except Exception (List Bytes)}
    {thrown : Exception}
    (conveys : Conveys (.error thrown) contributed) :
    contributed = .error thrown := by
  cases conveys with
  | thrown =>
      rfl

/-- A response is written from texts of the port. -/
theorem Conveys.exists_texts
    {contributed : Except Exception (List Bytes)}
    {response : Json}
    (conveys : Conveys (.ok (some response)) contributed) :
    ∃ texts,
      contributed = .ok texts ∧
        (response.ValidText ↔ ∀ text ∈ texts, ValidUtf8 text) := by
  cases conveys with
  | @written _ texts valid =>
      exact ⟨texts, rfl, valid⟩

/-- A call that is refused repeats nothing of the port. -/
theorem Conveys.of_refused
    {outcome : Except Exception (Option Json)}
    {contributed : Except Exception (List Bytes)}
    (conveys : Conveys outcome contributed)
    (refused :
      outcome = .ok none ∨
        ∃ exception, outcome = .error (.json exception)) :
    ThrowsJsonOnly contributed ∧
      ∀ texts, contributed = .ok texts → texts = [] := by
  rcases refused with rfl | ⟨exception, rfl⟩
  · cases conveys
    refine ⟨throwsJsonOnly_ok _, fun texts same => ?_⟩
    exact (Except.ok.inj same).symm
  · rw [conveys.of_thrown]
    constructor
    · intro thrown same
      exact ⟨exception, (Except.error.inj same).symm⟩
    · intro texts impossible
      cases impossible

theorem conveys_listChats :
    Conveys
      ((service.listChats policyEngine environment profile
        accountId).1.map some)
      (chatTexts environment profile accountId) := by
  simp only [listChats, chatTexts]
  split
  · next denied =>
      rw [if_neg (by simpa using denied)]
      exact .plain (validText_error (validUtf8_reason profile _))
  · next allowed =>
      rw [if_pos (by simpa using allowed)]
      cases environment.telegram.listChats accountId with
      | error thrown =>
          exact .thrown thrown
      | ok result =>
          cases result with
          | error message =>
              exact .failed message
          | value chats =>
              refine .written ?_
              rw [validText_listing_iff (by decide), titlesFor,
                List.forall_mem_map, List.forall_mem_map]
              exact forall₂_congr fun chat _ => validText_chatJson_iff

theorem conveys_getMessages
    {chatId : Int64}
    {limit : UInt64} :
    Conveys
      ((service.getMessages policyEngine environment profile accountId
        chatId limit).1.map some)
      (messageTexts environment profile accountId chatId limit) := by
  simp only [getMessages, messageTexts]
  split
  · next denied =>
      rw [if_neg (by simpa using denied)]
      exact .plain (validText_error (validUtf8_reason profile _))
  · next allowed =>
      rw [if_pos (by simpa using allowed)]
      cases environment.telegram.getMessages accountId chatId
          (min limit kMaximumMessages) with
      | error thrown =>
          exact .thrown thrown
      | ok result =>
          cases result with
          | error message =>
              exact .failed message
          | value messages =>
              refine .written ?_
              rw [validText_listing_iff (by decide), sanitizedTexts,
                List.forall_mem_map, List.forall_mem_map]
              exact forall₂_congr fun message _ =>
                validText_messageJson_iff

theorem conveys_prepareSendMessage
    {chatId : Int64}
    {text : Bytes} :
    Conveys
      ((service.prepareSendMessage policyEngine environment profile
        accountId chatId text).1.map some)
      (preparedTexts environment profile accountId chatId text) := by
  simp only [prepareSendMessage, preparedTexts]
  split
  · next tooLong =>
      rw [if_neg]
      · exact .plain (validText_error (validUtf8_bytes _))
      · intro accepts
        have nonempty := accepts.nonempty
        have bounded := accepts.bounded
        simp only [Bool.or_eq_true, List.isEmpty_iff,
          decide_eq_true_eq] at tooLong
        rcases tooLong with rfl | tooLong
        · simp at nonempty
        · omega
  · next inBounds =>
      simp only [Bool.or_eq_true, List.isEmpty_iff, decide_eq_true_eq,
        not_or, Nat.not_lt] at inBounds
      split
      · next denied =>
          rw [if_neg fun accepts => accepts.permitted denied]
          exact .plain (validText_error (validUtf8_reason profile _))
      · next permitted =>
          rw [if_pos {
            nonempty := List.length_pos_iff.mpr inBounds.1
            bounded := inBounds.2
            permitted := permitted
          }]
          simp only [ApprovalService.prepare]
          cases created : createSecureId environment.random with
          | error thrown =>
              exact .thrown thrown
          | ok id =>
              refine .plain (Json.validText_ofMembers ?_)
              simp [validUtf8_bytes, validUtf8_of_createSecureId created]

theorem conveys_executeApprovedAction
    {actionId : Bytes} :
    Conveys
      ((service.executeApprovedAction policyEngine environment profile
        actionId).1.map some)
      (sentTexts service environment profile actionId) := by
  simp only [executeApprovedAction, sentTexts]
  rcases service.takeForExecution policyEngine environment profile
    actionId with ⟨taken, after⟩
  cases taken with
  | none =>
      exact .plain (validText_error (validUtf8_bytes _))
  | some action =>
      simp only [sendApproved]
      cases action.invocation.chatId with
      | none =>
          exact .thrown _
      | some chatId =>
          cases action.arguments.stringAt (bytes "text") with
          | error exception =>
              exact .thrown _
          | ok text =>
              simp only
              cases environment.telegram.sendMessage
                  action.invocation.accountId chatId text with
              | error thrown =>
                  exact .thrown thrown
              | ok result =>
                  cases result with
                  | error message =>
                      exact .failed message
                  | value message =>
                      refine .plain (Json.validText_ofMembers ?_)
                      simp [validUtf8_bytes]

end Tools

end TelegramApplicationService

namespace HandlerContext

open TelegramApplicationService

variable {context : HandlerContext}
variable {service : TelegramApplicationService}

/-- Converted arguments reach the port. -/
def onArguments
    {Arguments : Type}
    (converted : Except JsonException Arguments)
    (texts : Arguments → Except Exception (List Bytes)) :
    Except Exception (List Bytes) :=
  match converted with
  | .error thrown => .error (.json thrown)
  | .ok arguments => texts arguments

/-- What the port contributes to a tool call, or what is thrown there. -/
def portTexts
    (context : HandlerContext)
    (service : TelegramApplicationService)
    (name : Bytes)
    (arguments : Json) : Except Exception (List Bytes) :=
  if name = bytes "telegram_list_chats" then
    onArguments
      (arguments.stringAt (bytes "account_id"))
      fun accountId =>
        chatTexts context.environment context.profile accountId
  else if name = bytes "telegram_get_messages" then
    onArguments
      (do
        let accountId ← arguments.stringAt (bytes "account_id")
        let chatId ←
          arguments.atKey (bytes "chat_id") >>=
            Json.getInt64 context.library
        let limit ←
          arguments.valueOr (bytes "limit")
            (Json.getUInt32 context.library) 50
        return (accountId, chatId, limit))
      fun (accountId, chatId, limit) =>
        messageTexts context.environment context.profile accountId
          chatId limit.toUInt64
  else if name = bytes "telegram_prepare_send_message" then
    onArguments
      (do
        let accountId ← arguments.stringAt (bytes "account_id")
        let chatId ←
          arguments.atKey (bytes "chat_id") >>=
            Json.getInt64 context.library
        let text ← arguments.stringAt (bytes "text")
        return (accountId, chatId, text))
      fun (accountId, chatId, text) =>
        preparedTexts context.environment context.profile accountId
          chatId text
  else if name = bytes "telegram_execute_approved_action" then
    onArguments
      (arguments.stringAt (bytes "action_id"))
      fun actionId =>
        sentTexts service context.environment context.profile actionId
  else
    .ok []

theorem conveys_withArguments
    {Arguments : Type}
    {converted : Except JsonException Arguments}
    {call :
      Arguments →
        Except Exception Json × TelegramApplicationService}
    {texts : Arguments → Except Exception (List Bytes)}
    (conveys :
      ∀ arguments,
        Conveys ((call arguments).1.map some) (texts arguments)) :
    Conveys (withArguments service converted call).1
      (onArguments converted texts) := by
  rw [withArguments_fst]
  cases converted with
  | error exception =>
      exact .thrown _
  | ok arguments =>
      exact conveys arguments

/-- A tool call stands and falls with what the port contributes. -/
theorem conveys_callTool
    {name : Bytes}
    {arguments : Json}
    (production : context.policyEngine = TgGate.policyEngine) :
    Conveys (context.callTool service name arguments).1
      (context.portTexts service name arguments) := by
  simp only [callTool, portTexts, production]
  split
  · exact conveys_withArguments fun accountId => conveys_listChats
  · split
    · exact conveys_withArguments fun converted => conveys_getMessages
    · split
      · exact conveys_withArguments fun converted =>
          conveys_prepareSendMessage
      · split
        · exact conveys_withArguments fun actionId =>
            conveys_executeApprovedAction
        · exact .silent

end HandlerContext

end TgGate
