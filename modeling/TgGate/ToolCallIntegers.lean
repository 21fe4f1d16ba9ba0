import TgGate.AuditLog
import TgGate.Library.JsonIntegers
import TgGate.ToolVisibility

namespace TgGate

open Library

/-!
# Integers of tool calls

A tool call converts its arguments and then makes one call of the application
service.  The conversions do not check the range of an integer, so that a chat id
or a limit that does not fit reaches the service as another one.  The integers
are handled exactly, or the call is refused, exactly if they fit or something
else refuses the call before it reaches the service.
-/

namespace ServiceCall

/-- The chat that a call names. -/
def chatId? : ServiceCall → Option Int64
  | .getMessages _ chatId _ => some chatId
  | .prepareSendMessage _ chatId _ => some chatId
  | .listChats _ | .executeApprovedAction _ => none

end ServiceCall

namespace HandlerContext

section Reaching

variable (context : HandlerContext)

/-- The call that a tool makes of its converted arguments. -/
def serviceCall
    (name : Bytes)
    (arguments : Json) : Except JsonException (Option ServiceCall) :=
  if name = bytes "telegram_list_chats" then do
    let accountId ← arguments.stringAt (bytes "account_id")
    return some (.listChats accountId)
  else if name = bytes "telegram_get_messages" then do
    let accountId ← arguments.stringAt (bytes "account_id")
    let chatId ←
      arguments.atKey (bytes "chat_id") >>= Json.getInt64 context.library
    let limit ←
      arguments.valueOr (bytes "limit")
        (Json.getUInt32 context.library) 50
    return some (.getMessages accountId chatId limit.toUInt64)
  else if name = bytes "telegram_prepare_send_message" then do
    let accountId ← arguments.stringAt (bytes "account_id")
    let chatId ←
      arguments.atKey (bytes "chat_id") >>= Json.getInt64 context.library
    let text ← arguments.stringAt (bytes "text")
    return some (.prepareSendMessage accountId chatId text)
  else if name = bytes "telegram_execute_approved_action" then do
    let actionId ← arguments.stringAt (bytes "action_id")
    return some (.executeApprovedAction actionId)
  else
    return none

/-- A tool is called by making its service call. -/
theorem callTool_eq
    (service : TelegramApplicationService)
    (name : Bytes)
    (arguments : Json) :
    context.callTool service name arguments =
      match context.serviceCall name arguments with
      | .error thrown => (.error (.json thrown), service)
      | .ok none => (.ok none, service)
      | .ok (some call) =>
          let (response, service) :=
            call.perform service context.policyEngine context.environment
              context.profile
          (response.map some, service) := by
  unfold callTool serviceCall
  by_cases lists : name = bytes "telegram_list_chats"
  · rw [if_pos lists, if_pos lists]
    cases arguments.stringAt (bytes "account_id") <;> rfl
  · rw [if_neg lists, if_neg lists]
    by_cases reads : name = bytes "telegram_get_messages"
    · rw [if_pos reads, if_pos reads]
      cases arguments.stringAt (bytes "account_id") with
      | error thrown =>
          rfl
      | ok accountId =>
          cases arguments.atKey (bytes "chat_id") >>=
              Json.getInt64 context.library with
          | error thrown =>
              rfl
          | ok chatId =>
              cases arguments.valueOr (bytes "limit")
                (Json.getUInt32 context.library) 50 <;> rfl
    · rw [if_neg reads, if_neg reads]
      by_cases prepares : name = bytes "telegram_prepare_send_message"
      · rw [if_pos prepares, if_pos prepares]
        cases arguments.stringAt (bytes "account_id") with
        | error thrown =>
            rfl
        | ok accountId =>
            cases arguments.atKey (bytes "chat_id") >>=
                Json.getInt64 context.library with
            | error thrown =>
                rfl
            | ok chatId =>
                cases arguments.stringAt (bytes "text") <;> rfl
      · rw [if_neg prepares, if_neg prepares]
        by_cases executes : name = bytes "telegram_execute_approved_action"
        · rw [if_pos executes, if_pos executes]
          cases arguments.stringAt (bytes "action_id") <;> rfl
        · rw [if_neg executes, if_neg executes]
          rfl

/-- The call by which a request reaches the application service. -/
def reachedCall?
    (available : Bytes → Bool)
    (request : Json) : Option ServiceCall :=
  match toolName? request with
  | none => none
  | some name =>
      if available name then
        match context.serviceCall name (toolArguments request) with
        | .error _ => none
        | .ok call => call
      else
        none

/-- A tool call leaves the state that its service call leaves. -/
theorem snd_handleToolCall_of_reachedCall?
    (available : Bytes → Bool)
    (unavailable : Bytes)
    (wrap : Bytes → Bool → Json)
    (service : TelegramApplicationService)
    (request : Json) :
    (context.handleToolCall available unavailable wrap service
        request).2 =
      match context.reachedCall? available request with
      | none => service
      | some call =>
          (call.perform service context.policyEngine context.environment
            context.profile).2 := by
  rw [snd_handleToolCall]
  unfold reachedCall?
  cases toolName? request with
  | none =>
      rfl
  | some name =>
      cases isAvailable : available name with
      | false =>
          simp [isAvailable]
      | true =>
          simp only [isAvailable, ↓reduceIte, callTool_eq]
          rcases context.serviceCall name (toolArguments request) with
            thrown | _ | call <;> rfl

end Reaching

end HandlerContext

/-- A request gives the integers that a tool takes. -/
structure GivesIntegers
    (request : Json)
    (name : Bytes)
    (chatId limit : Int) : Prop where
  called : toolName? request = some name
  takesChat :
    name = bytes "telegram_get_messages" ∨
      name = bytes "telegram_prepare_send_message"
  chat :
    ∃ member,
      (toolArguments request).find? (bytes "chat_id") = some member ∧
        member.integer? = some chatId
  limit :
    name = bytes "telegram_get_messages" →
    ∃ member,
      (toolArguments request).find? (bytes "limit") = some member ∧
        member.integer? = some limit

/-- The integers fit the types that they are converted to. -/
structure IntegersFit
    (name : Bytes)
    (chatId limit : Int) : Prop where
  chat : -2 ^ 63 ≤ chatId ∧ chatId < 2 ^ 63
  limit :
    name = bytes "telegram_get_messages" →
    0 ≤ limit ∧ limit < 2 ^ 32

/-- The call is refused whatever its integers are. -/
def RefusedAnyway
    (available : Bytes → Bool)
    (request : Json)
    (name : Bytes) : Prop :=
  available name = false ∨
    (∀ text,
      (toolArguments request).find? (bytes "account_id") ≠
        some (.string text)) ∨
    name = bytes "telegram_prepare_send_message" ∧
      ∀ text,
        (toolArguments request).find? (bytes "text") ≠
          some (.string text)

/--
A handler uses the integers of a request as they are, or answers that they are
invalid, in every environment and state.
-/
structure HandledExactly
    (context : HandlerContext)
    (available : Bytes → Bool)
    (handle :
      Environment →
        TelegramApplicationService →
          Except Exception Json × TelegramApplicationService)
    (request : Json)
    (name : Bytes)
    (chatId limit : Int) : Prop where
  chatUsed :
    ∀ call used,
      context.reachedCall? available request = some call →
      call.chatId? = some used →
      used.toInt = chatId
  limitUsed :
    name = bytes "telegram_get_messages" →
    0 ≤ limit →
    ∀ environment service,
      ∃ calls,
        (handle environment service).2.telegramCalls =
            service.telegramCalls ++ calls ∧
          ∀ call ∈ calls,
            ∃ accountId usedChat usedLimit,
              call = .getMessages accountId usedChat usedLimit ∧
                usedChat.toInt = chatId ∧
                (usedLimit.toNat : Int) = min limit 100
  refused :
    ¬ IntegersFit name chatId limit →
    ∀ environment service,
      ∃ id message,
        (handle environment service).1 =
          .ok (rpcError id (-32602) message)

namespace HandlerContext

section Conversions

variable {context : HandlerContext}
variable {arguments : Json}
variable {call? : Option ServiceCall}

/-- The conversions of a request for messages. -/
theorem serviceCall_getMessages_eq_ok_iff :
    context.serviceCall (bytes "telegram_get_messages") arguments =
        .ok call? ↔
      ∃ accountId member chatId limit,
        arguments.find? (bytes "account_id") =
            some (.string accountId) ∧
          arguments.find? (bytes "chat_id") = some member ∧
          member.getInt64 context.library = .ok chatId ∧
          arguments.valueOr (bytes "limit")
              (Json.getUInt32 context.library) 50 =
            .ok limit ∧
          call? = some (.getMessages accountId chatId limit.toUInt64) := by
  unfold serviceCall
  rw [if_neg (by decide), if_pos rfl]
  simp only [Json.bind_eq_ok_iff, Json.stringAt_eq_ok_iff,
    Json.atKey_eq_ok_iff]
  constructor
  · rintro ⟨accountId, account, chatId, ⟨member, chat, isChat⟩, limit,
      isLimit, shape⟩
    exact ⟨accountId, member, chatId, limit, account, chat, isChat,
      isLimit, (Except.ok.inj shape).symm⟩
  · rintro ⟨accountId, member, chatId, limit, account, chat, isChat,
      isLimit, rfl⟩
    exact ⟨accountId, account, chatId, ⟨member, chat, isChat⟩, limit,
      isLimit, rfl⟩

/-- The conversions of a request to prepare a message. -/
theorem serviceCall_prepareSendMessage_eq_ok_iff :
    context.serviceCall (bytes "telegram_prepare_send_message")
          arguments =
        .ok call? ↔
      ∃ accountId member chatId text,
        arguments.find? (bytes "account_id") =
            some (.string accountId) ∧
          arguments.find? (bytes "chat_id") = some member ∧
          member.getInt64 context.library = .ok chatId ∧
          arguments.find? (bytes "text") = some (.string text) ∧
          call? = some (.prepareSendMessage accountId chatId text) := by
  unfold serviceCall
  rw [if_neg (by decide), if_neg (by decide), if_pos rfl]
  simp only [Json.bind_eq_ok_iff, Json.stringAt_eq_ok_iff,
    Json.atKey_eq_ok_iff]
  constructor
  · rintro ⟨accountId, account, chatId, ⟨member, chat, isChat⟩, text,
      isText, shape⟩
    exact ⟨accountId, member, chatId, text, account, chat, isChat,
      isText, (Except.ok.inj shape).symm⟩
  · rintro ⟨accountId, member, chatId, text, account, chat, isChat,
      isText, rfl⟩
    exact ⟨accountId, account, chatId, ⟨member, chat, isChat⟩, text,
      isText, rfl⟩

end Conversions

section Answers

variable {context : HandlerContext}
variable {service : TelegramApplicationService}
variable {id arguments : Json}
variable {name : Bytes}
variable {wrap : Bytes → Bool → Json}

/-- Arguments that cannot be converted are answered as invalid. -/
theorem fst_answerToolCall_of_thrown
    {thrown : JsonException}
    (converted : context.serviceCall name arguments = .error thrown) :
    (context.answerToolCall service id name arguments wrap).1 =
      .ok (rpcError id (-32602)
        (bytes "Tool arguments do not match the schema")) := by
  unfold answerToolCall
  rw [callTool_eq, converted]

/-- A service call that throws nothing of the library is not an error. -/
theorem fst_answerToolCall_ne_rpcError
    {call : ServiceCall}
    (converted : context.serviceCall name arguments = .ok (some call))
    (unthrown :
      ∀ thrown,
        (call.perform service context.policyEngine context.environment
            context.profile).1 ≠
          .error (.json thrown))
    (code : Int64)
    (other : Json)
    (message : Bytes) :
    (context.answerToolCall service id name arguments wrap).1 ≠
      .ok (rpcError other code message) := by
  intro answered
  have called := context.callTool_eq service name arguments
  rw [converted] at called
  simp only at called
  rcases performed :
      call.perform service context.policyEngine context.environment
        context.profile with
    ⟨thrown | response, after⟩
  · rw [performed] at called
    have isThrown := unthrown
    rw [performed] at isThrown
    unfold answerToolCall at answered
    rw [called] at answered
    cases thrown with
    | json exception =>
        exact isThrown exception rfl
    | runtimeError | unknown | undefinedBehaviour =>
        cases answered
  · rw [performed] at called
    unfold answerToolCall at answered
    rw [called] at answered
    obtain ⟨serialized, -, wrapped⟩ :=
      Json.bind_eq_ok_iff.mp (eq_ok_of_mapError answered)
    obtain ⟨isOk, -, shape⟩ := Json.bind_eq_ok_iff.mp wrapped
    have messages := congrArg errorMessage? (Except.ok.inj shape)
    simp at messages

end Answers

end HandlerContext

/-- Without an account, a call that names a chat throws nothing of JSON. -/
theorem ServiceCall.fst_perform_ne_json
    {call : ServiceCall}
    {used : Int64}
    (names : call.chatId? = some used)
    (service : TelegramApplicationService)
    (engine : IPolicyEngine)
    (profile : McpClientProfile)
    (thrown : JsonException) :
    (call.perform service engine {} profile).1 ≠ .error (.json thrown) := by
  cases call with
  | listChats | executeApprovedAction =>
      cases names
  | getMessages accountId chatId limit =>
      simp only [perform, TelegramApplicationService.getMessages]
      split
      · simp [TelegramApplicationService.denyAndAudit]
      · simp [unavailableTelegramService]
  | prepareSendMessage accountId chatId text =>
      simp only [perform, TelegramApplicationService.prepareSendMessage]
      split
      · simp
      · split
        · simp [TelegramApplicationService.denyAndAudit]
        · simp [ApprovalService.prepare, createSecureId]

section Handling

variable {context : HandlerContext}
variable {available : Bytes → Bool}
variable {request : Json}
variable {name : Bytes}
variable {chatId limit : Int}

/-- The call reaches the service with the converted arguments. -/
theorem reachedCall?_eq_some_iff
    (called : toolName? request = some name)
    {call : ServiceCall} :
    context.reachedCall? available request = some call ↔
      available name = true ∧
        context.serviceCall name (toolArguments request) =
          .ok (some call) := by
  unfold HandlerContext.reachedCall?
  rw [called]
  cases isAvailable : available name with
  | false =>
      simp [isAvailable]
  | true =>
      simp only [isAvailable, ↓reduceIte, true_and]
      rcases context.serviceCall name (toolArguments request) with
        thrown | call? <;> simp

/-- A chat id that fits is used as it is. -/
theorem toInt_of_serviceCall
    (gives : GivesIntegers request name chatId limit)
    (fits : IntegersFit name chatId limit)
    {call : ServiceCall}
    (converted :
      context.serviceCall name (toolArguments request) =
        .ok (some call))
    {used : Int64}
    (names : call.chatId? = some used) :
    used.toInt = chatId := by
  obtain ⟨member, found, isInteger⟩ := gives.chat
  have exactly :
      ∀ {value},
        member.getInt64 context.library = .ok value →
        value.toInt = chatId :=
    fun isChat =>
      (Json.getInt64_exactWithin isInteger isChat).mpr fits.chat
  rcases gives.takesChat with rfl | rfl
  · obtain ⟨accountId, other, value, limitValue, -, otherFound, isChat, -,
      shape⟩ :=
      HandlerContext.serviceCall_getMessages_eq_ok_iff.mp converted
    rw [found, Option.some.injEq] at otherFound
    subst otherFound
    obtain rfl := Option.some.inj shape
    obtain rfl := Option.some.inj names
    exact exactly isChat
  · obtain ⟨accountId, other, value, text, -, otherFound, isChat, -,
      shape⟩ :=
      HandlerContext.serviceCall_prepareSendMessage_eq_ok_iff.mp converted
    rw [found, Option.some.injEq] at otherFound
    subst otherFound
    obtain rfl := Option.some.inj shape
    obtain rfl := Option.some.inj names
    exact exactly isChat

/-- A limit that fits is used as it is, and then clamped. -/
theorem limit_of_serviceCall
    (gives :
      GivesIntegers request (bytes "telegram_get_messages") chatId limit)
    (fits :
      IntegersFit (bytes "telegram_get_messages") chatId limit)
    {call : ServiceCall}
    (converted :
      context.serviceCall (bytes "telegram_get_messages")
          (toolArguments request) =
        .ok (some call)) :
    ∃ accountId used limitUsed,
      call = .getMessages accountId used limitUsed ∧
        (limitUsed.toNat : Int) = limit := by
  obtain ⟨member, found, isInteger⟩ := gives.limit rfl
  obtain ⟨accountId, other, used, value, -, -, -, isLimit, shape⟩ :=
    HandlerContext.serviceCall_getMessages_eq_ok_iff.mp converted
  obtain rfl := Option.some.inj shape
  refine ⟨accountId, used, value.toUInt64, rfl, ?_⟩
  rw [Json.valueOr_of_find? found] at isLimit
  rw [UInt32.toNat_toUInt64]
  exact (Json.getUInt32_exactWithin isInteger isLimit).mpr
    (fits.limit rfl)

/-- What nothing refuses is converted to a call that names a chat. -/
theorem exists_serviceCall
    (gives : GivesIntegers request name chatId limit)
    (accepted : ¬ RefusedAnyway available request name) :
    ∃ call used,
      context.serviceCall name (toolArguments request) =
          .ok (some call) ∧
        call.chatId? = some used := by
  simp only [RefusedAnyway, not_or, not_and, not_forall, not_not]
    at accepted
  obtain ⟨-, ⟨accountId, account⟩, textGiven⟩ := accepted
  obtain ⟨member, found, isInteger⟩ := gives.chat
  obtain ⟨used, isChat⟩ :
      ∃ used, member.getInt64 context.library = .ok used :=
    Json.exists_getInt64_eq_ok isInteger
  rcases gives.takesChat with rfl | rfl
  · obtain ⟨limitMember, limitFound, limitInteger⟩ := gives.limit rfl
    obtain ⟨value, isLimit⟩ :
        ∃ value, limitMember.getUInt32 context.library = .ok value :=
      Json.exists_getUInt32_eq_ok limitInteger
    refine ⟨.getMessages accountId used value.toUInt64, used, ?_, rfl⟩
    refine HandlerContext.serviceCall_getMessages_eq_ok_iff.mpr
      ⟨accountId, member, used, value, account, found, isChat, ?_, rfl⟩
    rw [Json.valueOr_of_find? limitFound]
    exact isLimit
  · obtain ⟨text, isText⟩ := textGiven rfl
    exact ⟨.prepareSendMessage accountId used text, used,
      HandlerContext.serviceCall_prepareSendMessage_eq_ok_iff.mpr
        ⟨accountId, member, used, text, account, found, isChat, isText,
          rfl⟩, rfl⟩

/-- Without its texts a call is not converted. -/
theorem exists_thrown_of_refused
    (takesChat :
      name = bytes "telegram_get_messages" ∨
        name = bytes "telegram_prepare_send_message")
    (refused : RefusedAnyway available request name)
    (isAvailable : available name = true) :
    ∃ thrown,
      context.serviceCall name (toolArguments request) =
        .error thrown := by
  cases converted :
      context.serviceCall name (toolArguments request) with
  | error thrown =>
      exact ⟨thrown, rfl⟩
  | ok call? =>
      exfalso
      rcases takesChat with rfl | rfl
      · obtain ⟨accountId, -, -, -, account, -⟩ :=
          HandlerContext.serviceCall_getMessages_eq_ok_iff.mp converted
        rcases refused with unavailable | noAccount | ⟨isPrepare, -⟩
        · rw [isAvailable] at unavailable
          cases unavailable
        · exact noAccount accountId account
        · exact absurd isPrepare (by decide)
      · obtain ⟨accountId, -, -, text, account, -, -, isText, -⟩ :=
          HandlerContext.serviceCall_prepareSendMessage_eq_ok_iff.mp
            converted
        rcases refused with unavailable | noAccount | ⟨-, noText⟩
        · rw [isAvailable] at unavailable
          cases unavailable
        · exact noAccount accountId account
        · exact noText text isText

/-- The clamped limit, as a number. -/
theorem toNat_min_kMaximumMessages (value : UInt64) :
    ((min value TelegramApplicationService.kMaximumMessages).toNat : Int) =
      min (value.toNat : Int) 100 := by
  have hundred :
      TelegramApplicationService.kMaximumMessages.toNat = 100 :=
    rfl
  by_cases small : value ≤ TelegramApplicationService.kMaximumMessages
  · have kept :
        min value TelegramApplicationService.kMaximumMessages = value :=
      if_pos small
    rw [UInt64.le_iff_toNat_le, hundred] at small
    rw [kept]
    omega
  · have clamped :
        min value TelegramApplicationService.kMaximumMessages =
          TelegramApplicationService.kMaximumMessages :=
      if_neg small
    rw [UInt64.le_iff_toNat_le, hundred] at small
    rw [clamped, hundred]
    omega

/-- A request for messages asks the port at most once, for a clamped limit. -/
theorem telegramCalls_perform_getMessages
    (service : TelegramApplicationService)
    (engine : IPolicyEngine)
    (environment : Environment)
    (profile : McpClientProfile)
    (accountId : Bytes)
    (used : Int64)
    (value : UInt64) :
    ∃ calls,
      ((ServiceCall.getMessages accountId used value).perform service
            engine environment profile).2.telegramCalls =
          service.telegramCalls ++ calls ∧
        ∀ call ∈ calls,
          call =
            .getMessages accountId used
              (min value TelegramApplicationService.kMaximumMessages) := by
  cases decided :
      (engine.evaluate profile
        (getMessagesInvocation accountId used)).isAllowed with
  | true =>
      refine ⟨[.getMessages accountId used
        (min value TelegramApplicationService.kMaximumMessages)], ?_,
        by simp⟩
      exact service.telegramCalls_getMessages_of_allowed engine
        environment profile decided
  | false =>
      refine ⟨[], ?_, by simp⟩
      unfold getMessagesInvocation at decided
      simp [ServiceCall.perform, TelegramApplicationService.getMessages,
        decided, TelegramApplicationService.denyAndAudit,
        TelegramApplicationService.audit]

/-- The tool call of a handler, in each environment and state. -/
def toolCallIn
    (context : HandlerContext)
    (available : Bytes → Bool)
    (unavailable : Bytes)
    (wrap : Bytes → Bool → Json)
    (request : Json)
    (environment : Environment)
    (service : TelegramApplicationService) :
    Except Exception Json × TelegramApplicationService :=
  ({ context with environment := environment } :
    HandlerContext).handleToolCall available unavailable wrap service
      request

variable {unavailable : Bytes}
variable {wrap : Bytes → Bool → Json}

/-- Integers that fit are used as they are. -/
theorem handledExactly_of_integersFit
    (gives : GivesIntegers request name chatId limit)
    (fits : IntegersFit name chatId limit) :
    HandledExactly context available
      (toolCallIn context available unavailable wrap request) request name
      chatId limit where
  chatUsed := by
    intro call used reached names
    exact toInt_of_serviceCall gives fits
      ((reachedCall?_eq_some_iff gives.called).mp reached).2 names
  limitUsed := by
    rintro rfl - environment service
    unfold toolCallIn
    rw [HandlerContext.snd_handleToolCall_of_reachedCall?]
    cases reached :
        ({ context with environment := environment } :
          HandlerContext).reachedCall? available request with
    | none =>
        exact ⟨[], by simp, by simp⟩
    | some call =>
        have converted :=
          ((reachedCall?_eq_some_iff gives.called).mp reached).2
        obtain ⟨accountId, used, value, rfl, isLimit⟩ :=
          limit_of_serviceCall gives fits converted
        have isChat :=
          toInt_of_serviceCall gives fits converted
            (rfl : (ServiceCall.getMessages accountId used value).chatId? =
              some used)
        obtain ⟨calls, shape, each⟩ :=
          telegramCalls_perform_getMessages service context.policyEngine
            environment context.profile accountId used value
        refine ⟨calls, shape, ?_⟩
        intro call member
        refine ⟨accountId, used, _, each call member, isChat, ?_⟩
        rw [toNat_min_kMaximumMessages, isLimit]
  refused := by
    intro unfit
    exact absurd fits unfit

/-- A call that is refused anyway is answered as invalid. -/
theorem handledExactly_of_refusedAnyway
    (gives : GivesIntegers request name chatId limit)
    (refused : RefusedAnyway available request name) :
    HandledExactly context available
      (toolCallIn context available unavailable wrap request) request name
      chatId limit := by
  have unreached :
      ∀ environment,
        ({ context with environment := environment } :
          HandlerContext).reachedCall? available request = none := by
    intro environment
    by_contra isReached
    obtain ⟨call, reached⟩ := Option.ne_none_iff_exists'.mp isReached
    obtain ⟨isAvailable, converted⟩ :=
      (reachedCall?_eq_some_iff gives.called).mp reached
    obtain ⟨thrown, failed⟩ :=
      exists_thrown_of_refused gives.takesChat refused isAvailable
    rw [converted] at failed
    cases failed
  refine ⟨?_, ?_, ?_⟩
  · intro call used reached
    have none := unreached context.environment
    rw [reached] at none
    cases none
  · rintro - - environment service
    unfold toolCallIn
    rw [HandlerContext.snd_handleToolCall_of_reachedCall?,
      unreached environment]
    exact ⟨[], by simp, by simp⟩
  · rintro - environment service
    unfold toolCallIn
    obtain ⟨id, shape⟩ :=
      HandlerContext.handleToolCall_of_toolName? gives.called
        { context with environment := environment } available unavailable
        wrap service
    rw [shape]
    cases isAvailable : available name with
    | false =>
        exact ⟨id, unavailable, rfl⟩
    | true =>
        obtain ⟨thrown, failed⟩ :=
          exists_thrown_of_refused gives.takesChat refused isAvailable
        exact ⟨id, _, HandlerContext.fst_answerToolCall_of_thrown failed⟩

/-- Integers that do not fit, in a call that nothing refuses, are used. -/
theorem not_handledExactly_of_unfit
    (gives : GivesIntegers request name chatId limit)
    (unfit : ¬ IntegersFit name chatId limit)
    (accepted : ¬ RefusedAnyway available request name) :
    ¬ HandledExactly context available
      (toolCallIn context available unavailable wrap request) request name
      chatId limit := by
  intro exactly
  obtain ⟨id, message, answered⟩ := exactly.refused unfit {} {}
  obtain ⟨call, used, converted, names⟩ :=
    @exists_serviceCall { context with environment := {} } _ _ _ _ _ gives
      accepted
  have isAvailable : available name = true := by
    by_contra notAvailable
    exact accepted (.inl (by simpa using notAvailable))
  obtain ⟨ownId, shape⟩ :=
    HandlerContext.handleToolCall_of_toolName? gives.called
      { context with environment := {} } available unavailable wrap {}
  unfold toolCallIn at answered
  rw [shape, if_pos isAvailable] at answered
  exact HandlerContext.fst_answerToolCall_ne_rpcError converted
    (ServiceCall.fst_perform_ne_json names {} context.policyEngine
      context.profile)
    (-32602) id message answered

/-- A tool call is handled exactly if its integers fit or it is refused. -/
theorem handledExactly_toolCallIn_iff
    (gives : GivesIntegers request name chatId limit) :
    HandledExactly context available
        (toolCallIn context available unavailable wrap request) request
        name chatId limit ↔
      IntegersFit name chatId limit ∨
        RefusedAnyway available request name := by
  constructor
  · intro exactly
    by_contra neither
    rw [not_or] at neither
    exact not_handledExactly_of_unfit gives neither.1 neither.2 exactly
  · rintro (fits | refused)
    · exact handledExactly_of_integersFit gives fits
    · exact handledExactly_of_refusedAnyway gives refused

end Handling

namespace V2025_11_25

/-- A tool of the surface. -/
def isAvailable
    (context : HandlerContext)
    (surface : ToolSurface)
    (name : Bytes) : Bool :=
  (context.tools.findOn name surface).isSome

/-- A versioned request for a tool call is handled as one. -/
theorem handle_of_toolCall
    {request : Json}
    (version :
      request.find? (bytes "jsonrpc") = some (.string (bytes "2.0")))
    (calls : CallsMethod request (bytes "tools/call"))
    (context : HandlerContext)
    (surface : ToolSurface) :
    (fun environment service =>
        handle { context with environment := environment } surface service
          request) =
      toolCallIn context (isAvailable context surface)
        (bytes "Tool is unavailable on this endpoint") toolResult
        request := by
  obtain ⟨id, idRead⟩ :=
    Json.exists_valueOr_eq_ok (Json.isObject_of_find? version)
      (bytes "id") .null
  have read :=
    readRequest_eq_ok_some_iff.mpr ⟨idRead, version, calls⟩
  funext environment service
  simp only [handle, read, bytes_inj, String.reduceEq, ↓reduceIte]
  rfl

end V2025_11_25

namespace V2026_07_28

/-- A registered tool of the profile. -/
def isAvailable (context : HandlerContext) (name : Bytes) : Bool :=
  (context.tools.find name).isSome &&
    contains context.profile.allowedTools name

/-- A request for a tool call is handled as one. -/
theorem handle_of_toolCall
    {request : Json}
    (calls : CallsMethod request (bytes "tools/call"))
    (context : HandlerContext) :
    (fun environment service =>
        handle { context with environment := environment } service
          request) =
      toolCallIn context (isAvailable context)
        (bytes "Tool is unavailable for this client") toolResult
        request := by
  obtain ⟨id, read⟩ := readRequest_of_callsMethod calls
  funext environment service
  simp only [handle, read, bytes_inj, String.reduceEq, ↓reduceIte]
  rfl

end V2026_07_28

/--
Either handler uses the integers of a tool call as they are, or refuses them,
exactly if they fit or the call is refused whatever they are.
-/
theorem toolCalls_handledExactly_iff
    (context : HandlerContext)
    (request : Json)
    (name : Bytes)
    (chatId limit : Int)
    (calls : CallsMethod request (bytes "tools/call"))
    (gives : GivesIntegers request name chatId limit) :
    (∀ surface,
        request.find? (bytes "jsonrpc") = some (.string (bytes "2.0")) →
        (HandledExactly context (V2025_11_25.isAvailable context surface)
            (fun environment service =>
              V2025_11_25.handle { context with environment := environment }
                surface service request)
            request name chatId limit ↔
          IntegersFit name chatId limit ∨
            RefusedAnyway (V2025_11_25.isAvailable context surface) request
              name)) ∧
      (HandledExactly context (V2026_07_28.isAvailable context)
          (fun environment service =>
            V2026_07_28.handle { context with environment := environment }
              service request)
          request name chatId limit ↔
        IntegersFit name chatId limit ∨
          RefusedAnyway (V2026_07_28.isAvailable context) request name) := by
  constructor
  · intro surface version
    rw [V2025_11_25.handle_of_toolCall version calls]
    exact handledExactly_toolCallIn_iff gives
  · rw [V2026_07_28.handle_of_toolCall calls]
    exact handledExactly_toolCallIn_iff gives

section Wrapping

/-- A request for messages of one chat. -/
def limitRequest (limit : UInt64) : Json :=
  .ofMembers
    [(bytes "jsonrpc", .string (bytes "2.0")),
      (bytes "id", .numberUnsigned 1),
      (bytes "method", .string (bytes "tools/call")),
      (bytes "params", .ofMembers
        [(bytes "name", .string (bytes "telegram_get_messages")),
          (bytes "arguments", .ofMembers
            [(bytes "account_id", .string (bytes "work")),
              (bytes "chat_id", .numberUnsigned 42),
              (bytes "limit", .numberUnsigned limit)])])]

/-- The tool that reads messages. -/
def limitTool : ToolDefinition where
  name := bytes "telegram_get_messages"
  description := bytes "Read messages"
  surface := .read
  inputSchema := .ofMembers []

/-- A client that may read messages. -/
def limitContext : HandlerContext where
  library := preparerContext.library
  policyEngine := policyEngine
  environment := {}
  tools := { tools := [limitTool] }
  profile := {
    id := bytes "client"
    allowedAccounts := [bytes "work"]
    allowedTools := [bytes "telegram_get_messages"]
    allowedChats := [42]
  }

theorem callsMethod_limitRequest (limit : UInt64) :
    CallsMethod (limitRequest limit) (bytes "tools/call") := by
  simp [CallsMethod, limitRequest]

theorem givesIntegers_limitRequest (limit : UInt64) :
    GivesIntegers (limitRequest limit) (bytes "telegram_get_messages")
      42 limit.toNat where
  called := by simp [toolName?, limitRequest]
  takesChat := .inl rfl
  chat := ⟨.numberUnsigned 42, by simp [toolArguments, limitRequest], rfl⟩
  limit _ :=
    ⟨.numberUnsigned limit, by simp [toolArguments, limitRequest], rfl⟩

/-- Both handlers, asked for more messages than fit. -/
theorem toolCalls_handledExactly_iff_messages :
    (HandledExactly limitContext
          (V2025_11_25.isAvailable limitContext .read)
          (fun environment service =>
            V2025_11_25.handle
              { limitContext with environment := environment } .read service
              (limitRequest 4294967296))
          (limitRequest 4294967296) (bytes "telegram_get_messages") 42
          (4294967296 : UInt64).toNat ↔
        IntegersFit (bytes "telegram_get_messages") 42
            (4294967296 : UInt64).toNat ∨
          RefusedAnyway (V2025_11_25.isAvailable limitContext .read)
            (limitRequest 4294967296) (bytes "telegram_get_messages")) ∧
      (HandledExactly limitContext (V2026_07_28.isAvailable limitContext)
          (fun environment service =>
            V2026_07_28.handle
              { limitContext with environment := environment } service
              (limitRequest 4294967296))
          (limitRequest 4294967296) (bytes "telegram_get_messages") 42
          (4294967296 : UInt64).toNat ↔
        IntegersFit (bytes "telegram_get_messages") 42
            (4294967296 : UInt64).toNat ∨
          RefusedAnyway (V2026_07_28.isAvailable limitContext)
            (limitRequest 4294967296) (bytes "telegram_get_messages")) := by
  have both :=
    toolCalls_handledExactly_iff limitContext (limitRequest 4294967296) _ _
      _ (callsMethod_limitRequest _) (givesIntegers_limitRequest _)
  exact ⟨both.1 .read (by simp [limitRequest]), both.2⟩

/-- A request for 4294967296 messages asks the port for none of them. -/
theorem not_toolCalls_handledExactly :
    ¬ ∀ (context : HandlerContext)
        (request : Json)
        (name : Bytes)
        (chatId limit : Int),
        CallsMethod request (bytes "tools/call") →
        GivesIntegers request name chatId limit →
        (∀ surface,
            request.find? (bytes "jsonrpc") =
              some (.string (bytes "2.0")) →
            HandledExactly context (V2025_11_25.isAvailable context surface)
              (fun environment service =>
                V2025_11_25.handle
                  { context with environment := environment } surface service
                  request)
              request name chatId limit) ∧
          HandledExactly context (V2026_07_28.isAvailable context)
            (fun environment service =>
              V2026_07_28.handle { context with environment := environment }
                service request)
            request name chatId limit := by
  intro exactly
  have handled :=
    (exactly limitContext (limitRequest 4294967296) _ _ _
      (callsMethod_limitRequest _)
      (givesIntegers_limitRequest _)).2.limitUsed rfl (by decide) {} {}
  obtain ⟨calls, shape, each⟩ := handled
  have asked :
      (V2026_07_28.handle limitContext {}
          (limitRequest 4294967296)).2.telegramCalls =
        [.getMessages (bytes "work") 42 0] := by
    decide +kernel
  rw [show ({ limitContext with environment := {} } : HandlerContext) =
      limitContext from rfl, asked, List.nil_append] at shape
  obtain ⟨accountId, usedChat, usedLimit, isCall, -, clamped⟩ :=
    each (.getMessages (bytes "work") 42 0) (by rw [← shape]; simp)
  cases isCall
  exact absurd clamped (by decide)

end Wrapping

end TgGate
