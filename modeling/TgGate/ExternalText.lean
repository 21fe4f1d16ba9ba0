import TgGate.RejectionReports

namespace TgGate

open Library

/-!
# External text in responses

`sanitize_external_text` drops control characters and cuts long texts at a
fixed byte.  A cut inside a multi-byte character leaves a text that is not
valid UTF-8.  Serialising the tool result then throws outside the `try` block
of the protocol handler, and the host answers the whole request with an error.
-/

/-- The bytes of an external text that are kept. -/
def keptText (text : Bytes) : Bytes :=
  text.filter fun character =>
    !(character < 0x20 && character ≠ 10 && character ≠ 9)

/-- If the kept text is cut, it is cut in front of a character. -/
def CutBetweenCharacters (text : Bytes) : Prop :=
  ∀ byte ∈ (keptText text)[
      TelegramApplicationService.kMaximumExternalTextBytes]?,
    byte.IsUTF8FirstByte

instance (text : Bytes) : Decidable (CutBetweenCharacters text) :=
  inferInstanceAs (Decidable (∀ byte ∈ _, UInt8.IsUTF8FirstByte byte))

theorem validUtf8_keptText
    {text : Bytes}
    (valid : ValidUtf8 text) :
    ValidUtf8 (keptText text) := by
  refine valid.filter fun byte large => ?_
  have notControl : ¬ byte < 0x20 := by
    rw [UInt8.not_lt]
    exact UInt8.le_trans (by decide) large
  simp [notControl]

/-- The response text of a valid text is valid unless a character is cut. -/
theorem validUtf8_sanitizeExternalText_iff
    {text : Bytes}
    (valid : ValidUtf8 text) :
    ValidUtf8
        (TelegramApplicationService.sanitizeExternalText text) ↔
      CutBetweenCharacters text := by
  have keptValid := validUtf8_keptText valid
  have sanitized :
      TelegramApplicationService.sanitizeExternalText text =
        if (keptText text).length >
            TelegramApplicationService.kMaximumExternalTextBytes then
          (keptText text).take
              TelegramApplicationService.kMaximumExternalTextBytes ++
            bytes "… [truncated]"
        else
          keptText text :=
    rfl
  rw [sanitized]
  split
  · rw [validUtf8_append_iff (validUtf8_bytes _)]
    exact validUtf8_take_iff keptValid _
  · next short =>
      have uncut := Nat.not_lt.mp short
      refine iff_of_true keptValid ?_
      unfold CutBetweenCharacters
      rw [List.getElem?_eq_none uncut]
      simp

/-- The result of `get_messages` for the messages of the backend. -/
def messagesResult (messages : List Message) : Json :=
  .ofMembers
    [(bytes "ok", .boolean true),
      (bytes "messages",
        .array (messages.map TelegramApplicationService.messageJson))]

/-- An authorised, well-formed call that the backend answers. -/
structure MessagesCall
    (context : HandlerContext)
    (service : LocalMcpHttpService)
    (request : HttpRequest)
    (messages : List Message) where
  profile : McpClientProfile
  json : Json
  params : Json
  arguments : Json
  accountId : Bytes
  chat : Json
  chatId : Int64
  limit : UInt32
  admits :
    Admits context.library service request profile json
  method :
    json.find? (bytes "method") = some (.string (bytes "tools/call"))
  hasParams :
    json.find? (bytes "params") = some params
  hasName :
    params.find? (bytes "name") =
      some (.string (bytes "telegram_get_messages"))
  registered :
    (context.tools.find (bytes "telegram_get_messages")).isSome = true
  listed :
    bytes "telegram_get_messages" ∈ profile.allowedTools
  hasArguments :
    params.find? (bytes "arguments") = some arguments
  hasAccount :
    arguments.find? (bytes "account_id") = some (.string accountId)
  hasChat :
    arguments.find? (bytes "chat_id") = some chat ∧
      chat.getInt64 context.library = .ok chatId
  hasLimit :
    arguments.valueOr (bytes "limit")
        (Json.getUInt32 context.library) 50 =
      .ok limit
  authorised :
    (context.policyEngine.evaluate profile
      { toolName := bytes "telegram_get_messages"
        accountId := accountId
        chatId := some chatId }).isAllowed = true
  answered :
    context.environment.telegram.getMessages accountId chatId
        (min limit.toUInt64
          TelegramApplicationService.kMaximumMessages) =
      .ok (.value messages)

/-- What the host answers. -/
def hostAnswer
    (context : HandlerContext)
    (service : LocalMcpHttpService)
    (request : HttpRequest)
    (state : TelegramApplicationService) :
    Except Exception HttpResponse :=
  (service.handle context.library
    (LocalMcpHttpService.invokeProtocolHandler context)
    request state).1

/-- The body of an answer, with the headers of the transport. -/
def servedResponse
    (library : JsonLibrary)
    (request : HttpRequest)
    (body : Json) : Except JsonException HttpResponse := do
  let origin := header request (bytes "Origin")
  let allowOrigin :=
    if origin.isEmpty then
      []
    else
      [(bytes "Access-Control-Allow-Origin", origin)]
  let result ← response library 200 body
  return { result with headers := result.headers ++ allowOrigin }

/-- What the host makes of the answer of the protocol handler. -/
theorem hostAnswer_of_checked
    {context : HandlerContext}
    {service : LocalMcpHttpService}
    {profile : McpClientProfile}
    {state : TelegramApplicationService}
    {request : HttpRequest}
    {json : Json}
    (passes : Passes service request profile)
    (parsed : context.library.parse request.body = .ok json)
    (checked : checkRequest request json = .ok ()) :
    hostAnswer context service request state =
      LocalMcpHttpService.catchJson context.library
        (match (LocalMcpHttpService.invokeProtocolHandler context profile
            json state).1 with
        | .error thrown => .error thrown
        | .ok body =>
            (servedResponse context.library request body).mapError
              Exception.json) := by
  unfold hostAnswer
  rw [handle_of_passes passes]
  unfold LocalMcpHttpService.answer
  rw [parsed]
  simp only [checked]
  generalize LocalMcpHttpService.invokeProtocolHandler context profile
    json state = outcome
  rcases outcome with ⟨result, after⟩
  cases result <;> rfl

/-- Status 200 and a tool result with one entry for each message. -/
def AnswersMessages
    (context : HandlerContext)
    (messages : List Message)
    (answer : Except Exception HttpResponse) : Prop :=
  ∃ response id serialized,
    answer = .ok response ∧
      response.status = 200 ∧
      context.library.dump (messagesResult messages) =
        .ok serialized ∧
      context.library.dump
          (rpcResult id (V2026_07_28.toolResult serialized false)) =
        .ok response.body

/-- A tool that returns without an error is answered by its dump. -/
theorem answerToolCall_eq
    {context : HandlerContext}
    {state : TelegramApplicationService}
    {id arguments : Json}
    {name : Bytes}
    {wrap : Bytes → Bool → Json}
    {messages : List Message}
    (called :
      (context.callTool state name arguments).1 =
        .ok (some (messagesResult messages))) :
    (context.answerToolCall state id name arguments wrap).1 =
      ((context.library.dump (messagesResult messages)).map
        fun serialized =>
          rpcResult id (wrap serialized false)).mapError
        Exception.json := by
  have succeeded :
      (messagesResult messages).valueOr (bytes "ok") Json.getBoolean
          false =
        .ok true :=
    rfl
  unfold HandlerContext.answerToolCall
  generalize context.callTool state name arguments = outcome at called ⊢
  rcases outcome with ⟨result, after⟩
  simp only at called
  subst called
  simp only [succeeded]
  cases context.library.dump (messagesResult messages) <;> rfl

section Answer

variable
  {context : HandlerContext}
  {service : LocalMcpHttpService}
  {request : HttpRequest}
  {messages : List Message}
  (call : MessagesCall context service request messages)
  (state : TelegramApplicationService)

/-- The service returns the messages. -/
theorem MessagesCall.getMessages_eq :
    (state.getMessages context.policyEngine context.environment
        call.profile call.accountId call.chatId
        call.limit.toUInt64).1 =
      .ok (messagesResult messages) := by
  simp only [TelegramApplicationService.getMessages, call.authorised,
    call.answered, Bool.not_true, Bool.false_eq_true, ↓reduceIte]
  rfl

/-- The arguments convert. -/
theorem MessagesCall.arguments_eq :
    (do
        let accountId ← call.arguments.stringAt (bytes "account_id")
        let chatId ←
          call.arguments.atKey (bytes "chat_id") >>=
            Json.getInt64 context.library
        let limit ←
          call.arguments.valueOr (bytes "limit")
            (Json.getUInt32 context.library) 50
        return (accountId, chatId, limit)) =
      Except.ok (call.accountId, call.chatId, call.limit) := by
  have account :
      call.arguments.stringAt (bytes "account_id") =
        .ok call.accountId :=
    Json.stringAt_eq_ok_iff.mpr call.hasAccount
  have chat :
      (call.arguments.atKey (bytes "chat_id") >>=
          Json.getInt64 context.library) =
        .ok call.chatId := by
    unfold Json.atKey
    rw [if_pos (Json.isObject_of_find? call.hasChat.1),
      call.hasChat.1]
    exact call.hasChat.2
  rw [account, chat, call.hasLimit]
  rfl

/-- The call reaches the service. -/
theorem MessagesCall.callTool_eq :
    ({ context with profile := call.profile }.callTool state
        (bytes "telegram_get_messages") call.arguments).1 =
      .ok (some (messagesResult messages)) := by
  have converted := call.arguments_eq
  have returned := call.getMessages_eq state
  unfold HandlerContext.callTool
  rw [if_neg (by simp), if_pos rfl]
  simp only [converted, HandlerContext.withArguments]
  rw [returned]
  rfl

/-- The protocol handler answers with the serialised messages or throws. -/
theorem MessagesCall.handle_eq
    {id : Json}
    (identified : requestId call.json = .ok id) :
    (V2026_07_28.handle { context with profile := call.profile } state
        call.json).1 =
      ((context.library.dump (messagesResult messages)).map
        fun serialized =>
          rpcResult id
            (V2026_07_28.toolResult serialized false)).mapError
        Exception.json := by
  have called := call.callTool_eq state
  have read :
      V2026_07_28.readRequest call.json =
        .ok (id, bytes "tools/call") := by
    unfold V2026_07_28.readRequest
    rw [identified, Json.stringAt_eq_ok_iff.mpr call.method]
    rfl
  have params :
      call.json.valueOr (bytes "params") .ok (.ofMembers []) =
        .ok call.params := by
    unfold Json.valueOr
    rw [if_pos (Json.isObject_of_find? call.hasParams),
      call.hasParams]
  have arguments :
      call.params.valueOr (bytes "arguments") .ok (.ofMembers []) =
        .ok call.arguments := by
    unfold Json.valueOr
    rw [if_pos (Json.isObject_of_find? call.hasArguments),
      call.hasArguments]
  have offered :
      (!((context.tools.find (bytes "telegram_get_messages")).isSome &&
        contains call.profile.allowedTools
          (bytes "telegram_get_messages"))) = false := by
    simp [call.registered, call.listed]
  have readParameters :
      (do
          let id ← requestId call.json
          let params ←
            call.json.valueOr (bytes "params") .ok (.ofMembers [])
          return (id, params)) =
        Except.ok (id, call.params) := by
    rw [identified, params]
    rfl
  unfold V2026_07_28.handle V2026_07_28.handleToolCall
    HandlerContext.handleToolCall
  simp only [read, bytes_inj, String.reduceEq, ↓reduceIte,
    readParameters, call.hasName, offered, Bool.false_eq_true,
    arguments]
  exact answerToolCall_eq called

/-- The request of the call has an id to be answered under. -/
theorem MessagesCall.exists_requestId :
    ∃ id, requestId call.json = .ok id :=
  Json.exists_valueOr_eq_ok (Json.isObject_of_find? call.method)
    (bytes "id") .null

/-- What the host makes of the answer of the protocol handler. -/
theorem MessagesCall.hostAnswer_eq
    {id : Json}
    (identified : requestId call.json = .ok id) :
    hostAnswer context service request state =
      LocalMcpHttpService.catchJson context.library
        (match context.library.dump (messagesResult messages) with
        | .error thrown => .error (.json thrown)
        | .ok serialized =>
            (do
              let result ←
                response context.library 200
                  (rpcResult id
                    (V2026_07_28.toolResult serialized false))
              return { result with
                headers :=
                  result.headers ++
                    if (header request (bytes "Origin")).isEmpty then
                      []
                    else
                      [(bytes "Access-Control-Allow-Origin",
                        header request (bytes "Origin"))]
                }).mapError Exception.json) := by
  have checked :
      checkRequest request call.json = .ok () :=
    checkRequest_eq_ok_iff.mpr call.admits.valid
  rw [hostAnswer_of_checked call.admits.passes call.admits.parsed checked,
    LocalMcpHttpService.invokeProtocolHandler,
    call.handle_eq state identified]
  cases context.library.dump (messagesResult messages) <;> rfl

/-- If everything can be serialised, the messages are returned. -/
theorem MessagesCall.answersMessages_of_dump
    {id : Json}
    {serialized body : Bytes}
    (identified : requestId call.json = .ok id)
    (inner :
      context.library.dump (messagesResult messages) = .ok serialized)
    (outer :
      context.library.dump
          (rpcResult id (V2026_07_28.toolResult serialized false)) =
        .ok body) :
    AnswersMessages context messages
      (hostAnswer context service request state) := by
  have built :
      response context.library 200
          (rpcResult id (V2026_07_28.toolResult serialized false)) =
        .ok {
          status := 200
          headers := [(bytes "Content-Type", bytes "application/json")]
          body := body
        } := by
    unfold response
    rw [outer]
    rfl
  rw [call.hostAnswer_eq state identified, inner]
  simp only [built]
  exact ⟨_, id, serialized, rfl, rfl, inner, outer⟩

include call in
/-- If the messages cannot be serialised, the request is rejected. -/
theorem MessagesCall.hostAnswer_of_dump_error
    {thrown : JsonException}
    (notParseError : thrown ≠ .parseError)
    (inner :
      context.library.dump (messagesResult messages) = .error thrown) :
    hostAnswer context service request state =
      (rejectionResponse context.library {
        status := 400
        id := .null
        code := -32600
        message := bytes "Invalid JSON-RPC request"
      }).mapError Exception.json := by
  obtain ⟨id, identified⟩ := call.exists_requestId
  rw [call.hostAnswer_eq state identified, inner]
  cases thrown with
  | parseError =>
      exact absurd rfl notParseError
  | invalidIterator | typeError | outOfRange | otherError =>
      rfl

end Answer

namespace TelegramApplicationService

theorem validText_chatJson_iff {chat : Chat} :
    (chatJson chat).ValidText ↔ ValidUtf8 chat.title := by
  constructor
  · intro valid
    have titled :
        (chatJson chat).find? (bytes "title") =
          some (.string chat.title) := by
      simp [chatJson]
    exact Json.validText_string.mp (valid.of_find? titled)
  · intro valid
    refine Json.validText_ofMembers ?_
    simp [validUtf8_bytes, kExternalTrust, valid]

theorem validText_messageJson_iff {message : Message} :
    (messageJson message).ValidText ↔
      ValidUtf8 (sanitizeExternalText message.text) := by
  constructor
  · intro valid
    have texted :
        (messageJson message).find? (bytes "text") =
          some (.string (sanitizeExternalText message.text)) := by
      simp [messageJson]
    exact Json.validText_string.mp (valid.of_find? texted)
  · intro valid
    refine Json.validText_ofMembers ?_
    simp [validUtf8_bytes, kExternalTrust, valid]

/-- A response around a list can be serialised if its items can. -/
theorem validText_listing_iff
    {key : String}
    {items : List Json}
    (other : bytes key ≠ bytes "ok") :
    (Json.ofMembers
        [(bytes "ok", .boolean true),
          (bytes key, .array items)]).ValidText ↔
      ∀ item ∈ items, item.ValidText := by
  constructor
  · intro valid
    have listed :
        (Json.ofMembers
          [(bytes "ok", .boolean true),
            (bytes key, .array items)]).find? (bytes key) =
          some (.array items) := by
      simp [other]
    exact Json.validText_array.mp (valid.of_find? listed)
  · intro valid
    refine Json.validText_ofMembers ?_
    simpa [validUtf8_bytes] using valid

end TelegramApplicationService

/-- The result is valid exactly if no message cuts a character. -/
theorem validText_messagesResult_iff
    {messages : List Message}
    (valid : ∀ message ∈ messages, ValidUtf8 message.text) :
    (messagesResult messages).ValidText ↔
      ∀ message ∈ messages, CutBetweenCharacters message.text := by
  rw [messagesResult,
    TelegramApplicationService.validText_listing_iff (by decide),
    List.forall_mem_map]
  refine forall₂_congr fun message member => ?_
  rw [TelegramApplicationService.validText_messageJson_iff,
    validUtf8_sanitizeExternalText_iff (valid message member)]

/-- A result can be written if its value can. -/
theorem validText_rpcResult_iff
    {id value : Json}
    (validId : id.ValidText) :
    (rpcResult id value).ValidText ↔ value.ValidText := by
  constructor
  · intro valid
    have found :
        (rpcResult id value).find? (bytes "result") = some value := by
      simp [rpcResult]
    exact valid.of_find? found
  · intro valid
    refine Json.validText_ofMembers ?_
    simp [validUtf8_bytes, validId, valid]

theorem validText_toolResult
    {serialized : Bytes}
    (valid : ValidUtf8 serialized)
    (isError : Bool) :
    (V2026_07_28.toolResult serialized isError).ValidText := by
  have content : (textContent serialized).ValidText := by
    refine Json.validText_array.mpr ?_
    rw [List.forall_mem_singleton]
    refine Json.validText_ofMembers ?_
    simp [validUtf8_bytes, valid]
  refine Json.validText_ofMembers ?_
  simp [validUtf8_bytes, content]

/-- The id of a parsed request is valid. -/
theorem validText_requestId
    {json id : Json}
    (valid : json.ValidText)
    (identified : requestId json = .ok id) :
    id.ValidText := by
  unfold requestId Json.valueOr at identified
  split at identified
  · cases found : json.find? (bytes "id") with
    | none =>
        rw [found] at identified
        obtain rfl := Except.ok.inj identified
        exact Json.validText_null
    | some value =>
        rw [found] at identified
        obtain rfl := Except.ok.inj identified
        exact valid.of_find? found
  · cases identified

/-- The host can always tell a client that its request is invalid. -/
theorem exists_rejectionResponse_eq_ok
    {library : JsonLibrary}
    (checks : ChecksUtf8 library) :
    ∃ response,
      rejectionResponse library {
          status := 400
          id := .null
          code := -32600
          message := bytes "Invalid JSON-RPC request"
        } = .ok response ∧
        response.status = 400 := by
  obtain ⟨text, -, answered⟩ :=
    rejectionResponse_of_valid checks validText_malformed
  exact ⟨_, answered, rfl⟩

/-- A single cut character has the whole request rejected. -/
theorem MessagesCall.rejected_of_cut
    {context : HandlerContext}
    {service : LocalMcpHttpService}
    {request : HttpRequest}
    {messages : List Message}
    (call : MessagesCall context service request messages)
    (checks : ChecksUtf8 context.library)
    (valid : ∀ message ∈ messages, ValidUtf8 message.text)
    (cut :
      ¬ ∀ message ∈ messages, CutBetweenCharacters message.text)
    (state : TelegramApplicationService) :
    ∃ response,
      hostAnswer context service request state = .ok response ∧
        response.status = 400 := by
  rw [← validText_messagesResult_iff valid] at cut
  obtain ⟨response, rejected, status⟩ :=
    exists_rejectionResponse_eq_ok checks
  refine ⟨response, ?_, status⟩
  rw [call.hostAnswer_of_dump_error state (by decide)
    (checks.rejects _ cut), rejected]
  rfl

/--
The response text of every valid text is valid exactly if no character is cut;
and a call whose messages are valid is answered with one entry for each message
exactly if that holds for all of them.
-/
theorem answersMessages_iff
    {context : HandlerContext}
    {service : LocalMcpHttpService}
    {request : HttpRequest}
    {messages : List Message}
    (checks : ChecksUtf8 context.library)
    (call : MessagesCall context service request messages)
    (valid : ∀ message ∈ messages, ValidUtf8 message.text)
    (state : TelegramApplicationService) :
    (∀ text,
      ValidUtf8 text →
      (ValidUtf8
          (TelegramApplicationService.sanitizeExternalText text) ↔
        CutBetweenCharacters text)) ∧
    (AnswersMessages context messages
        (hostAnswer context service request state) ↔
      ∀ message ∈ messages, CutBetweenCharacters message.text) := by
  refine ⟨fun text => validUtf8_sanitizeExternalText_iff, ?_, ?_⟩
  · intro answers
    by_contra cut
    obtain ⟨rejection, rejected, status⟩ :=
      call.rejected_of_cut checks valid cut state
    obtain ⟨response, _, _, answered, succeeded, -⟩ := answers
    rw [rejected] at answered
    obtain rfl := Except.ok.inj answered
    rw [status] at succeeded
    cases succeeded
  · intro uncut
    obtain ⟨id, identified⟩ := call.exists_requestId
    obtain ⟨serialized, inner, serializedValid⟩ :=
      checks.serializes _
        ((validText_messagesResult_iff valid).mpr uncut)
    have idValid :=
      validText_requestId (checks.parses call.admits.parsed) identified
    obtain ⟨body, outer, -⟩ :=
      checks.serializes _
        ((validText_rpcResult_iff idValid).mpr
          (validText_toolResult serializedValid false))
    exact call.answersMessages_of_dump state identified inner outer

/-- Letters followed by one character of two bytes. -/
def lettersThenAccent (count : Nat) : Bytes :=
  List.replicate count 97 ++ bytes "é"

theorem validUtf8_lettersThenAccent (count : Nat) :
    ValidUtf8 (lettersThenAccent count) := by
  refine ValidUtf8.append ?_ (validUtf8_bytes "é")
  refine validUtf8_of_ascii fun byte member => ?_
  rw [List.eq_of_mem_replicate member]
  decide

/-- Its last byte is kept and does not begin a character. -/
theorem last_keptText_lettersThenAccent (count : Nat) :
    (keptText (lettersThenAccent count))[count + 1]? = some 0xA9 := by
  have accent : keptText (bytes "é") = [0xC3, 0xA9] := by
    decide
  have letters :
      keptText (List.replicate count 97) = List.replicate count 97 := by
    refine List.filter_eq_self.mpr fun byte member => ?_
    rw [List.eq_of_mem_replicate member]
    decide
  have kept :
      keptText (lettersThenAccent count) =
        List.replicate count 97 ++ [0xC3, 0xA9] := by
    rw [← letters, ← accent]
    exact List.filter_append _ _
  rw [kept, List.getElem?_append_right (by simp)]
  simp

/-- A call of `telegram_get_messages` for chat 42. -/
def messagesJson : Json :=
  .ofMembers
    [(bytes "jsonrpc", .string (bytes "2.0")),
      (bytes "id", .numberInteger 7),
      (bytes "method", .string (bytes "tools/call")),
      (bytes "params", .ofMembers
        [(bytes "name", .string (bytes "telegram_get_messages")),
          (bytes "arguments", .ofMembers
            [(bytes "account_id", .string (bytes "work")),
              (bytes "chat_id", .numberInteger 42)]),
          (bytes "_meta", .ofMembers
            [(bytes "io.modelcontextprotocol/protocolVersion",
                .string V2026_07_28.kProtocolVersion),
              (bytes "io.modelcontextprotocol/clientInfo",
                serverInfo),
              (bytes "io.modelcontextprotocol/clientCapabilities",
                .ofMembers [])])])]

/-- Its transport. -/
def messagesRequest : HttpRequest where
  method := bytes "POST"
  path := bytes "/mcp"
  headers :=
    [(bytes "Authorization", bytes "Bearer secret"),
      (bytes "Content-Type", bytes "application/json"),
      (bytes "Accept", bytes "application/json, text/event-stream"),
      (bytes "MCP-Protocol-Version", V2026_07_28.kProtocolVersion),
      (bytes "Mcp-Method", bytes "tools/call"),
      (bytes "Mcp-Name", bytes "telegram_get_messages")]
  body := messagesJson.serialize fun _ => bytes "0.0"

/-- A client that may read chat 42. -/
def messagesProfile : McpClientProfile where
  id := bytes "reader"
  allowedAccounts := [bytes "work"]
  allowedTools := [bytes "telegram_get_messages"]
  allowedChats := [42]

/-- A host with that client. -/
def messagesService : LocalMcpHttpService where
  clients :=
    [{ profile := messagesProfile
       bearerToken := bytes "secret" }]

/-- A context whose backend returns the given messages. -/
def messagesContext (messages : List Message) : HandlerContext where
  library := checkingLibrary [(messagesRequest.body, messagesJson)]
  policyEngine := policyEngine
  environment := {
    telegram := {
      listChats := fun _ => .ok (.value [])
      getMessages := fun _ _ _ => .ok (.value messages)
      sendMessage := fun _ _ _ => .ok (.error (bytes "read only"))
    }
  }
  tools := {
    tools :=
      [{ name := bytes "telegram_get_messages"
         description := bytes "Read messages"
         surface := .read
         inputSchema := .ofMembers [] }]
  }
  profile := { id := [] }

theorem validText_messagesJson : messagesJson.ValidText := by
  have server : serverInfo.ValidText := by
    refine Json.validText_ofMembers ?_
    simp [validUtf8_bytes]
  have nothing : (Json.ofMembers []).ValidText :=
    Json.validText_ofMembers (by simp)
  have arguments :
      (Json.ofMembers
        [(bytes "account_id", .string (bytes "work")),
          (bytes "chat_id", .numberInteger 42)]).ValidText := by
    refine Json.validText_ofMembers ?_
    simp [validUtf8_bytes]
  have metadata :
      (Json.ofMembers
        [(bytes "io.modelcontextprotocol/protocolVersion",
            .string V2026_07_28.kProtocolVersion),
          (bytes "io.modelcontextprotocol/clientInfo", serverInfo),
          (bytes "io.modelcontextprotocol/clientCapabilities",
            .ofMembers [])]).ValidText := by
    refine Json.validText_ofMembers ?_
    simp [validUtf8_bytes, V2026_07_28.kProtocolVersion, server,
      nothing]
  have params :
      (Json.ofMembers
        [(bytes "name", .string (bytes "telegram_get_messages")),
          (bytes "arguments", .ofMembers
            [(bytes "account_id", .string (bytes "work")),
              (bytes "chat_id", .numberInteger 42)]),
          (bytes "_meta", .ofMembers
            [(bytes "io.modelcontextprotocol/protocolVersion",
                .string V2026_07_28.kProtocolVersion),
              (bytes "io.modelcontextprotocol/clientInfo",
                serverInfo),
              (bytes "io.modelcontextprotocol/clientCapabilities",
                .ofMembers [])])]).ValidText := by
    refine Json.validText_ofMembers ?_
    simp [validUtf8_bytes, arguments, metadata]
  refine Json.validText_ofMembers ?_
  simp [validUtf8_bytes, params]

/-- The call reaches the backend. -/
def messagesCall (messages : List Message) :
    MessagesCall (messagesContext messages) messagesService
      messagesRequest messages where
  profile := messagesProfile
  json := messagesJson
  params := (messagesJson.find? (bytes "params")).getD .null
  arguments :=
    (((messagesJson.find? (bytes "params")).getD .null).find?
      (bytes "arguments")).getD .null
  accountId := bytes "work"
  chat := .numberInteger 42
  chatId := 42
  limit := 50
  admits := {
    path := rfl
    httpMethod := rfl
    origin := .inl (by decide)
    client :=
      ⟨messagesService.clients.head (by simp [messagesService]),
        authenticate_eq_some_iff.mp rfl, rfl⟩
    contentType := by decide
    accept := by decide
    parsed := by
      simp [messagesContext, checkingLibrary, validText_messagesJson]
    valid := checkRequest_eq_ok_iff.mp rfl
  }
  method := rfl
  hasParams := rfl
  hasName := rfl
  registered := rfl
  listed := by decide
  hasArguments := rfl
  hasAccount := rfl
  hasChat := ⟨rfl, rfl⟩
  hasLimit := rfl
  authorised := rfl
  answered := rfl

theorem answersMessages_iff_greeting :
    AnswersMessages (messagesContext [{ text := bytes "Grüß dich" }])
      [{ text := bytes "Grüß dich" }]
      (hostAnswer (messagesContext [{ text := bytes "Grüß dich" }])
        messagesService messagesRequest {}) := by
  refine (answersMessages_iff (checksUtf8_checkingLibrary _)
    (messagesCall _) ?_ {}).2.mpr ?_
  · simp [validUtf8_bytes]
  · simp only [List.mem_singleton, forall_eq]
    decide +kernel

/--
A message whose last character lies across the cut: its text is valid, its
response text is not, and the request is rejected.
-/
theorem straddlingText_rejected :
    ValidUtf8 (lettersThenAccent 8191) ∧
      ¬ ValidUtf8
        (TelegramApplicationService.sanitizeExternalText
          (lettersThenAccent 8191)) ∧
      ∃ response,
        hostAnswer
            (messagesContext [{ text := lettersThenAccent 8191 }])
            messagesService messagesRequest {} =
          .ok response ∧
        response.status = 400 := by
  have valid := validUtf8_lettersThenAccent 8191
  have cut : ¬ CutBetweenCharacters (lettersThenAccent 8191) := by
    intro uncut
    exact absurd
      (uncut 0xA9 (last_keptText_lettersThenAccent 8191)) (by decide)
  refine ⟨valid, ?_, ?_⟩
  · rwa [validUtf8_sanitizeExternalText_iff valid]
  · refine (messagesCall _).rejected_of_cut
      (checksUtf8_checkingLibrary _) ?_ ?_ {}
    · intro message member
      rw [List.mem_singleton.mp member]
      exact valid
    · intro every
      exact cut
        (every { text := lettersThenAccent 8191 } List.mem_cons_self)

end TgGate
