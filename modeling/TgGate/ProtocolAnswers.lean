import TgGate.ToolReturns

namespace TgGate

open Library

/-!
# Which messages the 2025-11-25 handler answers

`handle` reads `jsonrpc` and `method` outside any `try` block, and `value` on
anything but an object throws.  Everything behind that is answered: arguments
are read inside the `try` block, and what a tool returns is serialised from
texts that are valid and too short to be cut.
-/

/-- A JSON-RPC object with either a result or an error. -/
structure RpcAnswer (response : Json) : Prop where
  version :
    response.find? (bytes "jsonrpc") = some (.string (bytes "2.0"))
  either :
    response.contains (bytes "result") =
      !response.contains (bytes "error")

theorem rpcAnswer_rpcResult (id value : Json) :
    RpcAnswer (rpcResult id value) where
  version := by
    simp [rpcResult]
  either := by
    simp [rpcResult, Json.contains]

theorem rpcAnswer_rpcError (id : Json) (code : Int64) (message : Bytes) :
    RpcAnswer (rpcError id code message) where
  version := by
    simp [rpcError]
  either := by
    simp [rpcError, Json.contains]

namespace HandlerContext

variable {context : HandlerContext}
variable {service : TelegramApplicationService}

/-- The answers of a handler: no JSON exception, and only RPC objects. -/
structure Answers (outcome : Except Exception Json) : Prop where
  contained : ∀ exception, outcome ≠ .error (.json exception)
  answer :
    ∀ {response}, outcome = .ok response → RpcAnswer response

theorem answers_of_eq
    {outcome : Except Exception Json}
    {response : Json}
    (returned : outcome = .ok response)
    (answer : RpcAnswer response) :
    Answers outcome where
  contained := by
    intro exception impossible
    cases returned.symm.trans impossible
  answer := by
    intro other same
    obtain rfl := Except.ok.inj (returned.symm.trans same)
    exact answer

section Calls

variable {id arguments request : Json}
variable {name unavailable : Bytes}
variable {available : Bytes → Bool}
variable {wrap : Bytes → Bool → Json}

/-- What becomes of a call of an available tool. -/
inductive ToolCallAnswer
    (context : HandlerContext)
    (service : TelegramApplicationService)
    (id : Json)
    (name : Bytes)
    (arguments : Json)
    (wrap : Bytes → Bool → Json) : Except Exception Json → Prop
  | refused
      {message : Bytes}
      (called :
        (context.callTool service name arguments).1 = .ok none ∨
          ∃ exception,
            (context.callTool service name arguments).1 =
              .error (.json exception))
      (valid : ValidUtf8 message)
      (code : Int64) :
      ToolCallAnswer context service id name arguments wrap
        (.ok (rpcError id code message))
  | failed
      {thrown : Exception}
      (called :
        (context.callTool service name arguments).1 = .error thrown)
      (foreign : ∀ exception, thrown ≠ .json exception) :
      ToolCallAnswer context service id name arguments wrap
        (.error thrown)
  | answered
      {response : Json}
      {serialized : Bytes}
      (called :
        (context.callTool service name arguments).1 =
          .ok (some response))
      (dumped : context.library.dump response = .ok serialized)
      (isError : Bool) :
      ToolCallAnswer context service id name arguments wrap
        (.ok (rpcResult id (wrap serialized isError)))
  | unwritable
      {response : Json}
      {exception : JsonException}
      (called :
        (context.callTool service name arguments).1 =
          .ok (some response))
      (failed : context.library.dump response = .error exception) :
      ToolCallAnswer context service id name arguments wrap
        (.error (.json exception))

theorem toolCallAnswer_answerToolCall :
    ToolCallAnswer context service id name arguments wrap
      (context.answerToolCall service id name arguments wrap).1 := by
  cases shape : context.callTool service name arguments with
  | mk result after =>
      have called :
          (context.callTool service name arguments).1 = result :=
        congrArg Prod.fst shape
      unfold answerToolCall
      rw [shape]
      cases result with
      | error thrown =>
          cases thrown with
          | json exception =>
              exact .refused (.inr ⟨exception, called⟩)
                (validUtf8_bytes _) _
          | runtimeError | unknown | undefinedBehaviour =>
              exact .failed called (fun _ impossible => nomatch impossible)
      | ok returned =>
          cases returned with
          | none =>
              exact .refused (.inl called) (validUtf8_bytes _) _
          | some response =>
              obtain ⟨ok, flagged⟩ := (toolReturn_callTool called).flagged
              have readFlag :
                  response.valueOr (bytes "ok") Json.getBoolean false =
                    .ok ok := by
                rw [Json.valueOr,
                  if_pos (Json.isObject_of_find? flagged), flagged]
                rfl
              cases dumped : context.library.dump response with
              | error exception =>
                  simp only [dumped]
                  exact .unwritable called dumped
              | ok serialized =>
                  simp only [dumped, readFlag]
                  exact .answered called dumped (!ok)

/-- A tool call is answered, or the port threw. -/
theorem answers_answerToolCall
    (production : context.policyEngine = TgGate.policyEngine)
    (checks : ChecksUtf8 context.library)
    (backend : ShortTexts context.environment.telegram) :
    Answers
      (context.answerToolCall service id name arguments wrap).1 := by
  have answer :=
    @toolCallAnswer_answerToolCall context service id arguments name wrap
  generalize (context.answerToolCall service id name arguments wrap).1 =
    outcome at answer ⊢
  cases answer with
  | refused called valid code =>
      exact answers_of_eq rfl (rpcAnswer_rpcError id code _)
  | failed called foreign =>
      refine ⟨fun exception same => ?_, fun impossible => ?_⟩
      · exact foreign exception (Except.error.inj same)
      · cases impossible
  | answered called dumped isError =>
      exact answers_of_eq rfl (rpcAnswer_rpcResult id _)
  | unwritable called failed =>
      obtain ⟨serialized, dumped, -⟩ :=
        checks.serializes _ (validText_callTool production backend called)
      cases failed.symm.trans dumped

/-- A tool call returns an answer if the port and the generator return. -/
theorem exists_answerToolCall_eq_ok
    (production : context.policyEngine = TgGate.policyEngine)
    (checks : ChecksUtf8 context.library)
    (backend : ShortTexts context.environment.telegram)
    (returns : CollaboratorsReturn context.environment)
    (stored : StoresChats service) :
    ∃ response,
      (context.answerToolCall service id name arguments wrap).1 =
        .ok response := by
  have answer :=
    @toolCallAnswer_answerToolCall context service id arguments name wrap
  generalize (context.answerToolCall service id name arguments wrap).1 =
    outcome at answer ⊢
  cases answer with
  | refused | answered =>
      exact ⟨_, rfl⟩
  | failed called foreign =>
      obtain ⟨exception, same⟩ :=
        throwsJsonOnly_callTool production returns stored _ called
      exact absurd same (foreign exception)
  | unwritable called failed =>
      obtain ⟨serialized, dumped, -⟩ :=
        checks.serializes _ (validText_callTool production backend called)
      cases failed.symm.trans dumped

/-- A request to call an available tool with some arguments. -/
structure CallsTool
    (available : Bytes → Bool)
    (request : Json)
    (name : Bytes)
    (arguments : Json) : Prop where
  params :
    ∃ params,
      request.valueOr (bytes "params") .ok (.ofMembers []) = .ok params ∧
        params.find? (bytes "name") = some (.string name) ∧
        params.valueOr (bytes "arguments") .ok (.ofMembers []) =
          .ok arguments
  isAvailable : available name = true

theorem requestId_of_isObject
    (object : request.isObject = true) :
    requestId request = .ok (echoedId request) := by
  unfold requestId Json.valueOr echoedId
  rw [if_pos object]
  cases request.find? (bytes "id") <;> rfl

/-- A call of an available tool is answered as a tool call. -/
theorem handleToolCall_of_callsTool
    (object : request.isObject = true)
    (calls : CallsTool available request name arguments) :
    context.handleToolCall available unavailable wrap service request =
      context.answerToolCall service (echoedId request) name arguments
        wrap := by
  obtain ⟨params, found, named, given⟩ := calls.params
  have parameters :
      (do
          let id ← requestId request
          let params ←
            request.valueOr (bytes "params") .ok (.ofMembers [])
          return (id, params)) =
        Except.ok (echoedId request, params) := by
    rw [requestId_of_isObject object, found]
    rfl
  unfold handleToolCall
  simp only [parameters, named, calls.isAvailable, given, Bool.not_true,
    Bool.false_eq_true, ↓reduceIte]

/-- A `tools/call` on an object is refused, or answered as a tool call. -/
theorem handleToolCall_cases
    (object : request.isObject = true) :
    (∃ code message,
        (ValidUtf8 unavailable → ValidUtf8 message) ∧
          (context.handleToolCall available unavailable wrap service
              request).1 =
            .ok (rpcError (echoedId request) code message)) ∨
      ∃ callName callArguments,
        CallsTool available request callName callArguments ∧
          (context.handleToolCall available unavailable wrap service
              request).1 =
            (context.answerToolCall service (echoedId request) callName
              callArguments wrap).1 := by
  have identified := requestId_of_isObject object
  obtain ⟨params, found⟩ :=
    Json.exists_valueOr_eq_ok object (bytes "params") (.ofMembers [])
  have parameters :
      (do
          let id ← requestId request
          let params ←
            request.valueOr (bytes "params") .ok (.ofMembers [])
          return (id, params)) =
        Except.ok (echoedId request, params) := by
    rw [identified, found]
    rfl
  unfold handleToolCall
  simp only [parameters]
  split
  · next callName named =>
      split
      · exact .inl ⟨_, _, id, rfl⟩
      · next isAvailable =>
          obtain ⟨callArguments, given⟩ :=
            Json.exists_valueOr_eq_ok (Json.isObject_of_find? named)
              (bytes "arguments") (.ofMembers [])
          rw [given]
          exact .inr ⟨callName, callArguments,
            ⟨⟨params, found, named, given⟩, by simpa using isAvailable⟩,
            rfl⟩
  · exact .inl ⟨_, _, fun _ => validUtf8_bytes _, rfl⟩

/-- Every `tools/call` on an object is answered, or the port threw. -/
theorem answers_handleToolCall
    (production : context.policyEngine = TgGate.policyEngine)
    (checks : ChecksUtf8 context.library)
    (backend : ShortTexts context.environment.telegram)
    (object : request.isObject = true) :
    Answers
      (context.handleToolCall available unavailable wrap service
        request).1 := by
  rcases handleToolCall_cases object with
    ⟨code, message, -, same⟩ | ⟨callName, callArguments, -, same⟩
  · exact answers_of_eq same (rpcAnswer_rpcError _ code message)
  · rw [same]
    exact answers_answerToolCall production checks backend

/-- Every `tools/call` on an object returns if the collaborators do. -/
theorem exists_handleToolCall_eq_ok
    (production : context.policyEngine = TgGate.policyEngine)
    (checks : ChecksUtf8 context.library)
    (backend : ShortTexts context.environment.telegram)
    (returns : CollaboratorsReturn context.environment)
    (stored : StoresChats service)
    (object : request.isObject = true) :
    ∃ response,
      (context.handleToolCall available unavailable wrap service
        request).1 = .ok response := by
  rcases handleToolCall_cases object with
    ⟨code, message, -, same⟩ | ⟨callName, callArguments, -, same⟩
  · exact ⟨_, same⟩
  · rw [same]
    exact exists_answerToolCall_eq_ok production checks backend returns
      stored

end Calls

end HandlerContext

namespace V2025_11_25

open HandlerContext

variable {context : HandlerContext}
variable {service : TelegramApplicationService}
variable {surface : ToolSurface}
variable {request : Json}

/--
An object whose version is a string or absent, and whose method is a string
where it is read.
-/
structure ReadableRequest (request : Json) : Prop where
  object : request.isObject = true
  version :
    ∀ {value},
      request.find? (bytes "jsonrpc") = some value →
      value.isString = true
  method :
    request.find? (bytes "jsonrpc") = some (.string (bytes "2.0")) →
    ∀ {value},
      request.find? (bytes "method") = some value →
      value.isString = true

/-- A string is read from a member exactly if it is one. -/
theorem exists_getString_iff {value : Json} :
    (∃ text, value.getString = .ok text) ↔ value.isString = true := by
  cases value <;> simp [Json.getString, Json.isString]

/-- What is read has the right types. -/
theorem readableRequest_of_read
    {read : Json × Option Bytes}
    (isRead : readRequest request = .ok read) :
    ReadableRequest request := by
  unfold readRequest requestId at isRead
  obtain ⟨id, identified, isRead⟩ := Json.bind_eq_ok_iff.mp isRead
  obtain ⟨version, versioned, isRead⟩ := Json.bind_eq_ok_iff.mp isRead
  have object : request.isObject = true := by
    unfold Json.valueOr at identified
    split at identified
    · assumption
    · cases identified
  refine ⟨object, ?_, ?_⟩
  · intro value found
    rw [Json.valueOr, if_pos object, found] at versioned
    exact exists_getString_iff.mp ⟨version, versioned⟩
  · intro current value found
    rw [Json.valueOr, if_pos object, current] at versioned
    obtain rfl := Except.ok.inj versioned
    have present : request.contains (bytes "method") = true := by
      rw [Json.contains, found]
      rfl
    simp only [present] at isRead
    obtain ⟨method, called, -⟩ := Json.bind_eq_ok_iff.mp isRead
    rw [Json.stringAt_eq_ok_iff, found] at called
    rw [Option.some.inj called]
    rfl

/-- A version of the right type is read. -/
theorem ReadableRequest.exists_version
    (readable : ReadableRequest request) :
    ∃ version,
      request.valueOr (bytes "jsonrpc") Json.getString [] =
        .ok version := by
  rw [Json.valueOr, if_pos readable.object]
  cases found : request.find? (bytes "jsonrpc") with
  | none =>
      exact ⟨[], rfl⟩
  | some value =>
      exact exists_getString_iff.mpr (readable.version found)

/-- The members read outside the `try` block have the right types. -/
theorem exists_readRequest_iff :
    (∃ read, readRequest request = .ok read) ↔
      ReadableRequest request := by
  constructor
  · rintro ⟨read, isRead⟩
    exact readableRequest_of_read isRead
  · intro readable
    obtain ⟨id, identified⟩ :=
      Json.exists_valueOr_eq_ok readable.object (bytes "id") .null
    obtain ⟨version, versioned⟩ := readable.exists_version
    unfold readRequest requestId
    rw [identified, versioned]
    by_cases current : version = bytes "2.0"
    · subst current
      have isCurrent :=
        (Json.valueOr_getString_eq_ok_iff (by decide)).mp versioned
      cases found : request.find? (bytes "method") with
      | none =>
          refine ⟨(id, none), ?_⟩
          simp [bind, Except.bind, pure, Except.pure, Json.contains,
            found]
      | some value =>
          obtain ⟨method, isMethod⟩ :=
            exists_getString_iff.mpr (readable.method isCurrent found)
          have called : request.stringAt (bytes "method") = .ok method := by
            rw [Json.stringAt_eq_ok_iff, found,
              Json.getString_eq_ok_iff.mp isMethod]
          refine ⟨(id, some method), ?_⟩
          simp [bind, Except.bind, pure, Except.pure, Json.contains,
            found, called]
    · refine ⟨(id, none), ?_⟩
      simp [bind, Except.bind, pure, Except.pure, current]

/-- One message gets an RPC object for an answer and throws nothing. -/
structure AnswersMessage
    (context : HandlerContext)
    (surface : ToolSurface)
    (service : TelegramApplicationService)
    (request : Json) : Prop where
  answers : Answers (handle context surface service request).1
  returns :
    CollaboratorsReturn context.environment →
      ∃ response,
        (handle context surface service request).1 = .ok response

/-- A request that cannot be read leaves the handler by an exception. -/
theorem handle_of_readRequest_error
    {thrown : JsonException}
    (unread : readRequest request = .error thrown) :
    (handle context surface service request).1 =
      .error (.json thrown) := by
  rw [handle, unread]

/-- A request that is read is answered, or handled as a tool call. -/
theorem handle_cases
    {read : Json × Option Bytes}
    (isRead : readRequest request = .ok read) :
    (∃ response,
        RpcAnswer response ∧
          (handle context surface service request).1 =
            .ok response) ∨
      (handle context surface service request).1 =
        (handleToolCall context surface service request).1 := by
  rcases read with ⟨id, method⟩
  rw [handle, isRead]
  cases method with
  | none =>
      exact .inl ⟨_, rpcAnswer_rpcError _ _ _, rfl⟩
  | some method =>
      simp only
      split
      · exact .inl ⟨_, rpcAnswer_rpcResult _ _, rfl⟩
      · split
        · exact .inl ⟨_, rpcAnswer_rpcResult _ _, rfl⟩
        · split
          · exact .inr rfl
          · exact .inl ⟨_, rpcAnswer_rpcError _ _ _, rfl⟩

/-- A message that can be read is answered. -/
theorem answersMessage_of_readable
    (production : context.policyEngine = TgGate.policyEngine)
    (checks : ChecksUtf8 context.library)
    (backend : ShortTexts context.environment.telegram)
    (stored : StoresChats service)
    (readable : ReadableRequest request) :
    AnswersMessage context surface service request := by
  obtain ⟨read, isRead⟩ := exists_readRequest_iff.mpr readable
  refine ⟨?_, fun returns => ?_⟩
  · rcases handle_cases isRead with ⟨response, answer, same⟩ | same
    · exact answers_of_eq same answer
    · rw [same]
      exact answers_handleToolCall production checks backend
        readable.object
  · rcases handle_cases isRead with ⟨response, answer, same⟩ | same
    · exact ⟨response, same⟩
    · rw [same]
      exact exists_handleToolCall_eq_ok production checks backend
        returns stored readable.object

/--
The handler answers exactly the messages it can read: objects with a string
version, and a string method if the version is the current one.
-/
theorem answersMessage_iff
    {commands : List Command}
    (production : context.policyEngine = TgGate.policyEngine)
    (checks : ChecksUtf8 context.library)
    (backend : ShortTexts context.environment.telegram)
    (reached :
      service.approvals =
        ((writePipeline policyEngine).state commands).approvals) :
    AnswersMessage context surface service request ↔
      ReadableRequest request := by
  constructor
  · intro answered
    rw [← exists_readRequest_iff]
    cases unread : readRequest request with
    | ok read =>
        exact ⟨read, rfl⟩
    | error thrown =>
        exact absurd (handle_of_readRequest_error unread)
          (answered.answers.contained thrown)
  · refine answersMessage_of_readable production checks backend ?_
    intro actionId action stored
    rw [reached] at stored
    obtain ⟨accountId, chatId, text, carries, -⟩ :=
      carries_of_stored stored
    rw [carries.invocation]
    exact Option.some_ne_none _

/-- The port of the example returns one short greeting. -/
theorem shortTexts_greeting :
    ShortTexts
      (messagesContext
        [{ text := bytes "hello" }]).environment.telegram where
  titles := by
    intro accountId chats listed chat member
    cases listed
    cases member
  texts := by
    intro accountId chatId limit messages returned message member
    cases returned
    obtain rfl := List.mem_singleton.mp member
    exact ⟨validUtf8_bytes _, by decide⟩
  chatErrors := by
    intro accountId message failed
    cases failed
  messageErrors := by
    intro accountId chatId limit message failed
    cases failed
  sendErrors := by
    intro accountId chatId text message failed
    cases failed
    exact ⟨validUtf8_bytes _, by decide⟩

theorem answersMessage_messagesJson :
    AnswersMessage (messagesContext [{ text := bytes "hello" }]) .read
      {} messagesJson := by
  refine (@answersMessage_iff
    (messagesContext [{ text := bytes "hello" }]) {} .read messagesJson
    [] rfl (checksUtf8_checkingLibrary _) shortTexts_greeting rfl).mpr
    ?_
  refine ⟨rfl, ?_, ?_⟩
  · intro value found
    cases found
    rfl
  · intro current value found
    cases found
    rfl

/-- A request whose method is a number. -/
def numberedMethod : Json :=
  .ofMembers
    [(bytes "jsonrpc", .string (bytes "2.0")),
      (bytes "id", .numberInteger 1),
      (bytes "method", .numberInteger 7)]

/-- The method is read as a string without a look at its type. -/
theorem numberedMethod_throws :
    (handle (messagesContext []) .read {} numberedMethod).1 =
        .error (.json .typeError) ∧
      ¬ AnswersMessage (messagesContext []) .read {} numberedMethod := by
  have thrown :
      (handle (messagesContext []) .read {} numberedMethod).1 =
        .error (.json .typeError) :=
    rfl
  exact ⟨thrown, fun answered => answered.answers.contained _ thrown⟩

end V2025_11_25

end TgGate
