import TgGate.PortTexts
import TgGate.ProtocolAnswers
import TgGate.ResponseIds
import TgGate.ToolVisibility

namespace TgGate

open Library

/-!
# Which requests get their id back

A request that passes the checks is answered by the protocol handler under the
id of the request, and the answer is lost where it cannot be written: the
texts of a listed tool, or those that the port contributes to a tool call.  An
exception from outside the JSON library leaves the request without an answer.
-/

section Handler

variable {context : HandlerContext}
variable {state : TelegramApplicationService}
variable {json : Json}

/-- The tools that are registered and allowed. -/
def availableTo (context : HandlerContext) (name : Bytes) : Bool :=
  (context.tools.find name).isSome &&
    contains context.profile.allowedTools name

/-- What `tools/list` answers. -/
def toolListing (context : HandlerContext) : Json :=
  .ofMembers
    [(bytes "resultType", .string (bytes "complete")),
      (bytes "tools", .array (V2026_07_28.listTools context)),
      (bytes "ttlMs", .numberInteger 300000),
      (bytes "cacheScope", .string (bytes "private"))]

theorem readRequest_of_callsMethod
    {method : Bytes}
    (object : json.isObject = true)
    (calls : CallsMethod json method) :
    V2026_07_28.readRequest json = .ok (echoedId json, method) := by
  rw [V2026_07_28.readRequest,
    HandlerContext.requestId_of_isObject object,
    Json.stringAt_eq_ok_iff.mpr calls]
  rfl

/-- The server describes itself. -/
theorem exists_handle_discover
    (object : json.isObject = true)
    (calls : CallsMethod json (bytes "server/discover")) :
    ∃ value,
      value.ValidText ∧
        (V2026_07_28.handle context state json).1 =
          .ok (rpcResult (echoedId json) value) := by
  rw [V2026_07_28.handle, readRequest_of_callsMethod object calls]
  exact ⟨_, by decide +kernel, rfl⟩

theorem handle_list
    (object : json.isObject = true)
    (calls : CallsMethod json (bytes "tools/list")) :
    (V2026_07_28.handle context state json).1 =
      .ok (rpcResult (echoedId json) (toolListing context)) := by
  rw [V2026_07_28.handle, readRequest_of_callsMethod object calls]
  rfl

theorem handle_call
    (object : json.isObject = true)
    (calls : CallsMethod json (bytes "tools/call")) :
    V2026_07_28.handle context state json =
      context.handleToolCall (availableTo context)
        (bytes "Tool is unavailable for this client")
        V2026_07_28.toolResult state json := by
  rw [V2026_07_28.handle, readRequest_of_callsMethod object calls]
  rfl

/-- The listing can be written if the listed tools can. -/
theorem validText_toolListing_iff :
    (toolListing context).ValidText ↔
      ∀ tool ∈ V2026_07_28.listTools context, tool.ValidText := by
  constructor
  · intro valid
    have listed :
        (toolListing context).find? (bytes "tools") =
          some (.array (V2026_07_28.listTools context)) := by
      simp [toolListing]
    exact Json.validText_array.mp (valid.of_find? listed)
  · intro valid
    refine Json.validText_ofMembers ?_
    simpa [validUtf8_bytes] using valid

theorem validText_rpcError
    {id : Json}
    {message : Bytes}
    (validId : id.ValidText)
    (validMessage : ValidUtf8 message)
    (code : Int64) :
    (rpcError id code message).ValidText := by
  refine Json.validText_ofMembers ?_
  simp only [List.mem_cons, List.not_mem_nil, or_false, forall_eq_or_imp,
    forall_eq, validUtf8_bytes, true_and, Json.validText_string, validId]
  refine Json.validText_ofMembers ?_
  simp [validUtf8_bytes, validMessage]

end Handler

section Served

variable {context : HandlerContext}
variable {service : LocalMcpHttpService}
variable {profile : McpClientProfile}
variable {state : TelegramApplicationService}
variable {request : HttpRequest}
variable {json : Json}

/-- The request passes its checks and calls a method. -/
def Serves
    (request : HttpRequest)
    (json : Json)
    (method : Bytes) : Prop :=
  ∃ params metadata, ValidRequest request json method params metadata

theorem Serves.checked
    {method : Bytes}
    (serves : Serves request json method) :
    checkRequest request json = .ok () := by
  obtain ⟨params, metadata, valid⟩ := serves
  exact checkRequest_eq_ok_iff.mpr ⟨method, params, metadata, valid⟩

theorem servedResponse_of_dump
    {library : JsonLibrary}
    {body : Json}
    {text : Bytes}
    (notNull : body ≠ .null)
    (dumped : library.dump body = .ok text) :
    ∃ headers,
      servedResponse library request body =
        .ok { status := 200, headers := headers, body := text } := by
  have isBody : body.isNull = false := by
    cases body <;> simp_all [Json.isNull]
  exact ⟨_, by
    simp [servedResponse, response, isBody, dumped, bind, Except.bind,
      pure, Except.pure]
    rfl⟩

theorem servedResponse_of_dump_error
    {library : JsonLibrary}
    {body : Json}
    {thrown : JsonException}
    (notNull : body ≠ .null)
    (failed : library.dump body = .error thrown) :
    servedResponse library request body = .error thrown := by
  have isBody : body.isNull = false := by
    cases body <;> simp_all [Json.isNull]
  simp [servedResponse, response, isBody, failed, bind, Except.bind]

/-- An exception from outside the library leaves no answer. -/
theorem not_echoesId_of_foreign
    {method : Bytes}
    {thrown : Exception}
    (passes : Passes service request profile)
    (parsed : context.library.parse request.body = .ok json)
    (serves : Serves request json method)
    (failed :
      (LocalMcpHttpService.invokeProtocolHandler context profile json
        state).1 = .error thrown)
    (foreign : ∀ exception, thrown ≠ .json exception) :
    ¬ EchoesId context.library json
      (hostAnswer context service request state) := by
  rw [hostAnswer_of_checked passes parsed serves.checked, failed]
  rintro ⟨response, answer, answered, -⟩
  cases thrown with
  | json exception =>
      exact foreign exception rfl
  | runtimeError | unknown | undefinedBehaviour =>
      cases answered

/-- What cannot be serialised is reported under null. -/
theorem echoesId_iff_of_typeError
    {method : Bytes}
    (checks : ChecksUtf8 context.library)
    (reads : ReadsAnswers context profile state request json)
    (passes : Passes service request profile)
    (parsed : context.library.parse request.body = .ok json)
    (serves : Serves request json method)
    (failed :
      (LocalMcpHttpService.invokeProtocolHandler context profile json
        state).1 = .error (.json .typeError)) :
    EchoesId context.library json
        (hostAnswer context service request state) ↔
      expectedId json = .null := by
  have halts :
      hostAnswer context service request state =
        haltOutcome context.library (.thrown .typeError) := by
    rw [hostAnswer_of_checked passes parsed serves.checked, failed]
    rfl
  rw [halts]
  exact echoesId_iff_of_malformed checks reads rfl

/-- An answer under the id of the request is read if it can be written. -/
theorem echoesId_iff_of_answered
    {method : Bytes}
    {body : Json}
    (checks : ChecksUtf8 context.library)
    (reads : ReadsAnswers context profile state request json)
    (passes : Passes service request profile)
    (parsed : context.library.parse request.body = .ok json)
    (serves : Serves request json method)
    (version :
      body.find? (bytes "jsonrpc") = some (.string (bytes "2.0")))
    (isId : body.find? (bytes "id") = some (echoedId json))
    (returned :
      (LocalMcpHttpService.invokeProtocolHandler context profile json
        state).1 = .ok body) :
    EchoesId context.library json
        (hostAnswer context service request state) ↔
      (expectedId json ≠ .null → body.ValidText) := by
  have notNull : body ≠ .null := by
    rintro rfl
    cases version
  by_cases valid : body.ValidText
  · obtain ⟨text, dumped, -⟩ := checks.serializes body valid
    obtain ⟨headers, written⟩ :=
      @servedResponse_of_dump request context.library body text notNull
        dumped
    have answered :
        hostAnswer context service request state =
          .ok { status := 200, headers := headers, body := text } := by
      rw [hostAnswer_of_checked passes parsed serves.checked, returned]
      simp only [written]
      rfl
    obtain ⟨params, metadata, isValid⟩ := serves
    have validIds : ValidIds json := isValid.validId
    rw [answered, echoesId_iff_of_document
      (reads (.answered returned) dumped) version isId,
      reread_echoedId_iff]
    exact iff_of_true validIds fun _ => valid
  · have failed := checks.rejects body valid
    have halts :
        hostAnswer context service request state =
          haltOutcome context.library (.thrown .typeError) := by
      rw [hostAnswer_of_checked passes parsed serves.checked, returned]
      simp only [@servedResponse_of_dump_error request context.library body
        _ notNull failed]
      rfl
    rw [halts, echoesId_iff_of_malformed checks reads rfl]
    simp [valid]

/-- A result comes back if it can be written. -/
theorem echoesId_iff_of_result
    {method : Bytes}
    {value : Json}
    (checks : ChecksUtf8 context.library)
    (reads : ReadsAnswers context profile state request json)
    (passes : Passes service request profile)
    (parsed : context.library.parse request.body = .ok json)
    (serves : Serves request json method)
    (returned :
      (LocalMcpHttpService.invokeProtocolHandler context profile json
        state).1 = .ok (rpcResult (echoedId json) value)) :
    EchoesId context.library json
        (hostAnswer context service request state) ↔
      (expectedId json ≠ .null → value.ValidText) := by
  have validId := validText_echoedId (checks.parses parsed)
  rw [echoesId_iff_of_answered checks reads passes parsed serves
    (by simp [rpcResult]) (by simp [rpcResult]) returned,
    validText_rpcResult_iff validId]

/-- An error of the protocol handler comes back. -/
theorem echoesId_of_error
    {method message : Bytes}
    {code : Int64}
    (checks : ChecksUtf8 context.library)
    (reads : ReadsAnswers context profile state request json)
    (passes : Passes service request profile)
    (parsed : context.library.parse request.body = .ok json)
    (serves : Serves request json method)
    (validMessage : ValidUtf8 message)
    (returned :
      (LocalMcpHttpService.invokeProtocolHandler context profile json
        state).1 = .ok (rpcError (echoedId json) code message)) :
    EchoesId context.library json
      (hostAnswer context service request state) := by
  have validId := validText_echoedId (checks.parses parsed)
  rw [echoesId_iff_of_answered checks reads passes parsed serves
    (by simp [rpcError]) (by simp [rpcError]) returned]
  exact fun _ => validText_rpcError validId validMessage code

/-- The listing comes back if it can be written. -/
theorem echoesId_iff_of_list
    (checks : ChecksUtf8 context.library)
    (reads : ReadsAnswers context profile state request json)
    (passes : Passes service request profile)
    (parsed : context.library.parse request.body = .ok json)
    (serves : Serves request json (bytes "tools/list")) :
    EchoesId context.library json
        (hostAnswer context service request state) ↔
      (expectedId json ≠ .null →
        ∀ tool ∈ context.tools.allowedFor profile,
          (ToolRegistry.describe tool).ValidText) := by
  obtain ⟨params, metadata, valid⟩ := id serves
  have listed :=
    @handle_list { context with profile := profile } state json
      valid.object valid.hasMethod
  rw [echoesId_iff_of_result checks reads passes parsed serves listed,
    validText_toolListing_iff, V2026_07_28.listTools_eq,
    List.forall_mem_map]

/-- A tool call comes back if the texts of the port can be written. -/
theorem echoesId_iff_of_call
    {name : Bytes}
    {arguments : Json}
    (production : context.policyEngine = policyEngine)
    (checks : ChecksUtf8 context.library)
    (reads : ReadsAnswers context profile state request json)
    (passes : Passes service request profile)
    (parsed : context.library.parse request.body = .ok json)
    (serves : Serves request json (bytes "tools/call"))
    (callsTool :
      HandlerContext.CallsTool
        (availableTo { context with profile := profile }) json name
        arguments) :
    EchoesId context.library json
        (hostAnswer context service request state) ↔
      TelegramApplicationService.ThrowsJsonOnly
          (HandlerContext.portTexts { context with profile := profile }
            state name arguments) ∧
        (expectedId json ≠ .null →
          ∀ texts,
            HandlerContext.portTexts { context with profile := profile }
                state name arguments = .ok texts →
            ∀ text ∈ texts, ValidUtf8 text) := by
  obtain ⟨params, metadata, valid⟩ := id serves
  have handled :
      (LocalMcpHttpService.invokeProtocolHandler context profile json
          state).1 =
        (HandlerContext.answerToolCall { context with profile := profile }
          state (echoedId json) name arguments
          V2026_07_28.toolResult).1 := by
    rw [LocalMcpHttpService.invokeProtocolHandler,
      handle_call valid.object valid.hasMethod,
      HandlerContext.handleToolCall_of_callsTool valid.object callsTool]
  have answer :=
    @HandlerContext.toolCallAnswer_answerToolCall
      { context with profile := profile } state (echoedId json) arguments
      name V2026_07_28.toolResult
  have conveys :=
    @HandlerContext.conveys_callTool { context with profile := profile }
      state name arguments production
  rw [← handled] at answer
  generalize returned :
    (LocalMcpHttpService.invokeProtocolHandler context profile json
      state).1 = outcome at answer
  generalize HandlerContext.portTexts { context with profile := profile }
    state name arguments = contributed at conveys ⊢
  cases answer with
  | @refused message called validMessage code =>
      obtain ⟨contained, silent⟩ := conveys.of_refused called
      refine iff_of_true
        (echoesId_of_error checks reads passes parsed serves validMessage
          returned)
        ⟨contained, fun _ texts same => ?_⟩
      rw [silent texts same]
      exact List.forall_mem_nil _
  | failed called foreign =>
      rw [called] at conveys
      rw [conveys.of_thrown]
      refine iff_of_false
        (not_echoesId_of_foreign passes parsed serves returned foreign) ?_
      rintro ⟨contained, -⟩
      obtain ⟨exception, same⟩ := contained _ rfl
      exact foreign exception same
  | @answered response serialized called dumped isError =>
      obtain ⟨written, validSerialized⟩ := checks.of_dump dumped
      rw [called] at conveys
      obtain ⟨texts, rfl, isWritten⟩ := conveys.exists_texts
      rw [echoesId_iff_of_result checks reads passes parsed serves returned]
      refine iff_of_true
        (fun _ => validText_toolResult validSerialized isError)
        ⟨TelegramApplicationService.throwsJsonOnly_ok _, ?_⟩
      intro _ others same
      obtain rfl := Except.ok.inj same
      exact isWritten.mp written
  | @unwritable response exception called failed =>
      have notWritten : ¬ response.ValidText := by
        intro valid
        obtain ⟨text, dumped, -⟩ := checks.serializes response valid
        cases failed.symm.trans dumped
      obtain rfl := Except.error.inj
        (failed.symm.trans (checks.rejects response notWritten))
      rw [called] at conveys
      obtain ⟨texts, rfl, isWritten⟩ := conveys.exists_texts
      rw [echoesId_iff_of_typeError checks reads passes parsed serves
        returned]
      constructor
      · intro isNull
        exact ⟨TelegramApplicationService.throwsJsonOnly_ok _,
          fun notNull => absurd isNull notNull⟩
      · rintro ⟨-, valid⟩
        by_contra notNull
        exact notWritten (isWritten.mpr (valid notNull texts rfl))

/--
What a request must be like for its id to come back: the id is of a type that
JSON-RPC knows, a tool call meets no exception from outside the JSON library,
and, unless null is expected anyway, every text that is read is a text and
every text that is written can be written.
-/
structure KeepsId
    (context : HandlerContext)
    (state : TelegramApplicationService)
    (request : HttpRequest)
    (json : Json) : Prop where
  validIds :
    ValidIds json
  returned :
    Serves request json (bytes "tools/call") →
    ∀ {name arguments},
      HandlerContext.CallsTool (availableTo context) json name
        arguments →
      TelegramApplicationService.ThrowsJsonOnly
        (context.portTexts state name arguments)
  readable :
    expectedId json ≠ .null →
    ReadableTexts request json
  listed :
    expectedId json ≠ .null →
    Serves request json (bytes "tools/list") →
    ∀ tool ∈ context.tools.allowedFor context.profile,
      (ToolRegistry.describe tool).ValidText
  contributed :
    expectedId json ≠ .null →
    Serves request json (bytes "tools/call") →
    ∀ {name arguments},
      HandlerContext.CallsTool (availableTo context) json name
        arguments →
      ∀ texts,
        context.portTexts state name arguments = .ok texts →
        ∀ text ∈ texts, ValidUtf8 text

/-- A request that is served has a valid id and readable texts. -/
theorem readableTexts_of_serves
    {method : Bytes}
    (serves : Serves request json method) :
    ReadableTexts request json := by
  obtain ⟨params, metadata, valid⟩ := serves
  constructor
  case version =>
    intro value found
    rw [valid.hasVersion] at found
    exact Option.some.inj found ▸ rfl
  case requested =>
    intro _
    rw [valid.protocolVersion]
    exact validUtf8_bytes _
  case metadata =>
    intro _ _ otherParams otherMetadata hasParams hasMetadata value found
    rw [valid.hasParams.1] at hasParams
    obtain rfl := Option.some.inj hasParams
    rw [valid.hasMetadata.1] at hasMetadata
    obtain rfl := Option.some.inj hasMetadata
    rw [valid.sameProtocolVersion] at found
    exact Option.some.inj found ▸ rfl

theorem serves_method_eq
    {method other : Bytes}
    (serves : Serves request json method)
    (servesOther : Serves request json other) :
    method = other := by
  obtain ⟨params, metadata, valid⟩ := serves
  obtain ⟨otherParams, otherMetadata, otherValid⟩ := servesOther
  exact valid.sameMethod.symm.trans otherValid.sameMethod

/-- A request whose checks stop calls nothing. -/
theorem keepsId_iff_of_halted
    {halt : Halt}
    (halted : checkRequest request json = .error halt) :
    KeepsId context state request json ↔
      ValidIds json ∧
        (expectedId json ≠ .null → ReadableTexts request json) := by
  have notServed : ∀ method, ¬ Serves request json method := by
    intro method serves
    cases halted.symm.trans serves.checked
  constructor
  · intro keeps
    exact ⟨keeps.validIds, keeps.readable⟩
  · rintro ⟨validIds, readable⟩
    exact {
      validIds := validIds
      returned := fun serves => absurd serves (notServed _)
      readable := readable
      listed := fun _ serves => absurd serves (notServed _)
      contributed := fun _ serves => absurd serves (notServed _)
    }

/-- Of a request that is served only the answer is left to be written. -/
theorem keepsId_iff_of_serves
    {method : Bytes}
    (serves : Serves request json method) :
    KeepsId context state request json ↔
      (method = bytes "tools/list" →
        expectedId json ≠ .null →
        ∀ tool ∈ context.tools.allowedFor context.profile,
          (ToolRegistry.describe tool).ValidText) ∧
      (method = bytes "tools/call" →
        ∀ {name arguments},
          HandlerContext.CallsTool (availableTo context) json name
            arguments →
          TelegramApplicationService.ThrowsJsonOnly
              (context.portTexts state name arguments) ∧
            (expectedId json ≠ .null →
              ∀ texts,
                context.portTexts state name arguments = .ok texts →
                ∀ text ∈ texts, ValidUtf8 text)) := by
  obtain ⟨params, metadata, valid⟩ := id serves
  constructor
  · intro keeps
    constructor
    · rintro rfl notNull
      exact keeps.listed notNull serves
    · rintro rfl name arguments callsTool
      exact ⟨keeps.returned serves callsTool, fun notNull =>
        keeps.contributed notNull serves callsTool⟩
  · rintro ⟨listed, called⟩
    exact {
      validIds := valid.validId
      returned := fun servesCall _ _ callsTool =>
        (called (serves_method_eq serves servesCall) callsTool).1
      readable := fun _ => readableTexts_of_serves serves
      listed := fun notNull servesList =>
        listed (serves_method_eq serves servesList) notNull
      contributed := fun notNull servesCall _ _ callsTool =>
        (called (serves_method_eq serves servesCall) callsTool).2 notNull
    }

/-- A call that no available tool matches is refused under its id. -/
theorem echoesId_of_refused
    (checks : ChecksUtf8 context.library)
    (reads : ReadsAnswers context profile state request json)
    (passes : Passes service request profile)
    (parsed : context.library.parse request.body = .ok json)
    (serves : Serves request json (bytes "tools/call"))
    (refused :
      ∀ name arguments,
        ¬ HandlerContext.CallsTool
          (availableTo { context with profile := profile }) json name
          arguments) :
    EchoesId context.library json
      (hostAnswer context service request state) := by
  obtain ⟨params, metadata, valid⟩ := id serves
  have cases :=
    @HandlerContext.handleToolCall_cases
      { context with profile := profile } state json
      (bytes "Tool is unavailable for this client")
      (availableTo { context with profile := profile })
      V2026_07_28.toolResult valid.object
  rw [← handle_call valid.object valid.hasMethod] at cases
  rcases cases with
    ⟨code, message, isValid, returned⟩ |
      ⟨name, arguments, callsTool, -⟩
  · exact echoesId_of_error checks reads passes parsed serves
      (isValid (validUtf8_bytes _)) returned
  · exact absurd callsTool (refused name arguments)

/--
The id of a request comes back exactly if it is of a type that JSON-RPC knows,
no exception from outside the JSON library is met, and no text stands in the
way.
-/
theorem echoesId_iff
    (production : context.policyEngine = policyEngine)
    (checks : ChecksUtf8 context.library)
    (reads : ReadsAnswers context profile state request json)
    (passes : Passes service request profile)
    (parsed : context.library.parse request.body = .ok json)
    (object : json.isObject = true) :
    EchoesId context.library json
        (hostAnswer context service request state) ↔
      KeepsId { context with profile := profile } state request json := by
  cases checked : checkRequest request json with
  | error halt =>
      rw [echoesId_iff_of_halted checks reads passes parsed object checked]
      exact (keepsId_iff_of_halted checked).symm
  | ok passed =>
      obtain ⟨method, params, metadata, valid⟩ :=
        checkRequest_eq_ok_iff.mp checked
      have serves : Serves request json method :=
        ⟨params, metadata, valid⟩
      have supported := valid.supported
      simp only [V2026_07_28.supportsMethod, Bool.or_eq_true,
        decide_eq_true_eq] at supported
      rw [keepsId_iff_of_serves serves]
      rcases supported with (rfl | rfl) | rfl
      · obtain ⟨value, validValue, returned⟩ :=
          @exists_handle_discover { context with profile := profile } state
            json valid.object valid.hasMethod
        rw [echoesId_iff_of_result checks reads passes parsed serves
          returned]
        refine iff_of_true (fun _ => validValue) ⟨?_, ?_⟩
        · intro impossible
          exact absurd impossible (by decide)
        · intro impossible
          exact absurd impossible (by decide)
      · rw [echoesId_iff_of_list checks reads passes parsed serves]
        constructor
        · intro listed
          exact ⟨fun _ => listed, fun impossible =>
            absurd impossible (by decide)⟩
        · rintro ⟨listed, -⟩
          exact listed rfl
      · constructor
        · intro echoes
          constructor
          · intro impossible
            exact absurd impossible (by decide)
          · intro _ name arguments callsTool
            exact (echoesId_iff_of_call production checks reads passes
              parsed serves callsTool).mp echoes
        · rintro ⟨-, called⟩
          by_cases available :
              ∃ name arguments,
                HandlerContext.CallsTool
                  (availableTo { context with profile := profile }) json
                  name arguments
          · obtain ⟨name, arguments, callsTool⟩ := available
            exact (echoesId_iff_of_call production checks reads passes
              parsed serves callsTool).mpr (called rfl callsTool)
          · refine echoesId_of_refused checks reads passes parsed serves ?_
            intro name arguments callsTool
            exact available ⟨name, arguments, callsTool⟩

end Served

/-- A library that reads a request and the answers to it. -/
def answersLibrary (json : Json) (answers : List Json) : JsonLibrary :=
  checkingLibrary
    ((json :: answers.map Json.reread).map fun document =>
      (compactText document, document))

/-- A host without messages behind that library. -/
def answersContext (json : Json) (answers : List Json) : HandlerContext :=
  { messagesContext [] with library := answersLibrary json answers }

/-- A request with a body of its own. -/
def requestWithBody (json : Json) : HttpRequest :=
  { messagesRequest with body := compactText json }

theorem passes_requestWithBody (json : Json) :
    Passes messagesService (requestWithBody json) messagesProfile where
  path := rfl
  httpMethod := rfl
  origin := .inl rfl
  client :=
    ⟨messagesService.clients.head (by simp [messagesService]),
      authenticate_eq_some_iff.mp rfl, rfl⟩
  contentType := (messagesCall []).admits.contentType
  accept := (messagesCall []).admits.accept

/-- A request without a method. -/
def namelessRequest : Json :=
  .ofMembers
    [(bytes "jsonrpc", .string (bytes "2.0")),
      (bytes "id", .string (bytes "a"))]

/-- The answer to it. -/
def namelessAnswer : Json :=
  rejectionDocument
    ⟨400, .string (bytes "a"), -32600, bytes "Invalid JSON-RPC request",
      .null⟩

theorem readsAnswers_namelessRequest :
    ReadsAnswers
      (answersContext namelessRequest
        [rejectionDocument malformed, namelessAnswer])
      messagesProfile {} (requestWithBody namelessRequest)
      namelessRequest := by
  have halted :
      checkRequest (requestWithBody namelessRequest) namelessRequest =
        .error (.rejected
          ⟨400, .string (bytes "a"), -32600,
            bytes "Invalid JSON-RPC request", .null⟩) :=
    rfl
  intro document text written dumped
  cases written with
  | malformed =>
      cases dumped
      rfl
  | rejected rejected =>
      rw [halted] at rejected
      cases rejected
      cases dumped
      rfl
  | answered returned =>
      cases returned

theorem echoesId_namelessRequest :
    EchoesId
      (answersLibrary namelessRequest
        [rejectionDocument malformed, namelessAnswer])
      namelessRequest
      (hostAnswer
        (answersContext namelessRequest
          [rejectionDocument malformed, namelessAnswer])
        messagesService (requestWithBody namelessRequest) {}) := by
  have notServed :
      ∀ method,
        ¬ Serves (requestWithBody namelessRequest) namelessRequest
          method := by
    rintro method ⟨params, metadata, valid⟩
    cases valid.hasMethod
  refine (@echoesId_iff _ _ messagesProfile {} _ _ rfl
    (checksUtf8_checkingLibrary _) readsAnswers_namelessRequest
    (passes_requestWithBody namelessRequest) rfl rfl).mpr ?_
  exact {
    validIds := by
      intro id found
      cases found
      rfl
    returned := fun serves => absurd serves (notServed _)
    readable := fun _ => {
      version := by
        intro value found
        cases found
        rfl
      requested := fun _ => validUtf8_bytes _
      metadata := by
        intro _ _ params metadata hasParams
        cases hasParams
    }
    listed := fun _ serves => absurd serves (notServed _)
    contributed := fun _ serves => absurd serves (notServed _)
  }

/-- A request whose version is a number. -/
def numberedVersion : Json :=
  .ofMembers
    [(bytes "jsonrpc", .numberUnsigned 2),
      (bytes "id", .numberUnsigned 7)]

/-- Its id is lost: the exception is reported under null. -/
theorem numberedVersion_losesId :
    hostAnswer
        (answersContext numberedVersion [rejectionDocument malformed])
        messagesService (requestWithBody numberedVersion) {} =
      .ok {
        status := 400
        headers := [(bytes "Content-Type", bytes "application/json")]
        body := compactText (rejectionDocument malformed) } ∧
      expectedId numberedVersion = .numberUnsigned 7 ∧
      ¬ EchoesId
        (answersLibrary numberedVersion [rejectionDocument malformed])
        numberedVersion
        (hostAnswer
          (answersContext numberedVersion [rejectionDocument malformed])
          messagesService (requestWithBody numberedVersion) {}) := by
  have answered :
      hostAnswer
          (answersContext numberedVersion [rejectionDocument malformed])
          messagesService (requestWithBody numberedVersion) {} =
        .ok {
          status := 400
          headers := [(bytes "Content-Type", bytes "application/json")]
          body := compactText (rejectionDocument malformed) } :=
    rfl
  have read :
      (answersLibrary numberedVersion [rejectionDocument malformed]).parse
          (compactText (rejectionDocument malformed)) =
        .ok (rejectionDocument malformed).reread :=
    rfl
  refine ⟨answered, rfl, ?_⟩
  rintro ⟨response, answer, same, isRead, -, sameId⟩
  rw [answered] at same
  obtain rfl := Except.ok.inj same
  obtain rfl := Except.ok.inj (read.symm.trans isRead)
  cases sameId

end TgGate
