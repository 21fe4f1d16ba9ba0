import TgGate.LocalMcpHttpService

namespace TgGate

open Library

/-!
# The gate in front of the protocol handler

Which requests reach the protocol handler, and as which client.  `Admits` is
the conjunction of everything a request must satisfy.  The host calls the
handler exactly once for an admitted request and never for another.
-/

/-- Texts that agree up to the case of ASCII letters. -/
theorem asciiEqualIgnoreCase_iff {lhs rhs : Bytes} :
    asciiEqualIgnoreCase lhs rhs = true ↔
      lhs.map toLower = rhs.map toLower := by
  unfold asciiEqualIgnoreCase
  induction lhs generalizing rhs with
  | nil =>
      cases rhs <;> simp
  | cons left lhs inductionHypothesis =>
      cases rhs with
      | nil =>
          simp
      | cons right rhs =>
          have rest := @inductionHypothesis rhs
          simp only [Bool.and_eq_true, decide_eq_true_eq] at rest
          simp only [List.length_cons, Nat.add_right_cancel_iff,
            List.zip_cons_cons, List.all_cons, Bool.and_eq_true,
            decide_eq_true_eq, List.map_cons, List.cons.injEq, ← rest]
          tauto

/-- Accumulated differences vanish exactly for equal texts. -/
theorem foldl_difference_eq_zero_iff
    {supplied expected : Bytes}
    (sameLength : supplied.length = expected.length)
    (difference : UInt8) :
    (supplied.zip expected).foldl
        (fun (difference : UInt8) (pair : UInt8 × UInt8) =>
          difference ||| (pair.1 ^^^ pair.2))
        difference = 0 ↔
      difference = 0 ∧ supplied = expected := by
  induction supplied generalizing expected difference with
  | nil =>
      cases expected with
      | nil =>
          simp
      | cons =>
          simp at sameLength
  | cons left supplied inductionHypothesis =>
      cases expected with
      | nil =>
          simp at sameLength
      | cons right expected =>
          simp only [List.length_cons, Nat.add_right_cancel_iff]
            at sameLength
          rw [List.zip_cons_cons, List.foldl_cons,
            inductionHypothesis sameLength, UInt8.or_eq_zero_iff,
            UInt8.xor_eq_zero_iff, List.cons.injEq]
          tauto

/-- The scheme, in any case, followed by exactly the token. -/
def PresentsToken (authorization token : Bytes) : Prop :=
  ∃ scheme,
    authorization = scheme ++ token ∧
      scheme.length = 7 ∧
      scheme.map toLower = (bytes "Bearer ").map toLower

theorem matchesBearerToken_iff {authorization expected : Bytes} :
    matchesBearerToken authorization expected = true ↔
      PresentsToken authorization expected := by
  have schemeLength : bearerScheme.length = 7 := by
    decide
  unfold matchesBearerToken PresentsToken
  rw [schemeLength]
  constructor
  · intro accepted
    split at accepted
    · cases accepted
    · next schemeMatches =>
        simp only [Bool.or_eq_true, decide_eq_true_eq,
          Bool.not_eq_true', not_or, Nat.not_lt, Bool.not_eq_false,
          asciiEqualIgnoreCase_iff] at schemeMatches
        simp only at accepted
        split at accepted
        · cases accepted
        · next sameLength =>
            rw [decide_eq_true_eq, foldl_difference_eq_zero_iff
              (not_not.mp sameLength)] at accepted
            refine ⟨authorization.take 7, ?_, ?_, schemeMatches.2⟩
            · rw [← accepted.2, List.take_append_drop]
            · simp [schemeMatches.1]
  · rintro ⟨scheme, rfl, sevenBytes, sameScheme⟩
    have taken : (scheme ++ expected).take 7 = scheme := by
      rw [← sevenBytes, List.take_left]
    have dropped : (scheme ++ expected).drop 7 = expected := by
      rw [← sevenBytes, List.drop_left]
    have isScheme : asciiEqualIgnoreCase scheme bearerScheme = true :=
      asciiEqualIgnoreCase_iff.mpr sameScheme
    have notShort : ¬ (scheme ++ expected).length < 7 := by
      simp [sevenBytes]
    simp only [taken, dropped, isScheme, notShort, decide_false,
      Bool.not_true, Bool.or_self, Bool.false_eq_true, ↓reduceIte,
      ne_eq, not_true_eq_false, decide_eq_true_eq]
    exact (foldl_difference_eq_zero_iff rfl 0).mpr ⟨rfl, rfl⟩

/-- The client is enabled and the request presents its token. -/
def Authenticates
    (request : HttpRequest)
    (client : AuthenticatedClient) : Prop :=
  client.profile.enabled = true ∧
    PresentsToken (header request (bytes "Authorization"))
      client.bearerToken

/-- The first configured client that the request authenticates. -/
def FirstAuthenticated
    (service : LocalMcpHttpService)
    (request : HttpRequest)
    (client : AuthenticatedClient) : Prop :=
  ∃ before after,
    service.clients = before ++ client :: after ∧
      Authenticates request client ∧
      ∀ other ∈ before, ¬ Authenticates request other

theorem authenticate_eq_some_iff
    {service : LocalMcpHttpService}
    {request : HttpRequest}
    {client : AuthenticatedClient} :
    service.authenticate request = some client ↔
      FirstAuthenticated service request client := by
  have checks (other : AuthenticatedClient) :
      (other.profile.enabled &&
          matchesBearerToken (header request (bytes "Authorization"))
            other.bearerToken) = true ↔
        Authenticates request other := by
    rw [Bool.and_eq_true, matchesBearerToken_iff]
    rfl
  unfold LocalMcpHttpService.authenticate FirstAuthenticated
  rw [List.find?_eq_some_iff_append]
  constructor
  · rintro ⟨authenticates, before, after, split, others⟩
    refine ⟨before, after, split, (checks client).mp authenticates,
      fun other member authenticatesOther => ?_⟩
    have refused := others other member
    rw [Bool.not_eq_true', ← Bool.not_eq_true, checks] at refused
    exact refused authenticatesOther
  · rintro ⟨before, after, split, authenticates, others⟩
    refine ⟨(checks client).mpr authenticates, before, after, split,
      fun other member => ?_⟩
    rw [Bool.not_eq_true', ← Bool.not_eq_true, checks]
    exact others other member

/-- Everything the JSON-RPC request and the headers must agree on. -/
structure ValidRequest
    (request : HttpRequest)
    (json : Json)
    (method : Bytes)
    (params metadata : Json) : Prop where
  object :
    json.isObject = true
  hasVersion :
    json.find? (bytes "jsonrpc") = some (.string (bytes "2.0"))
  validId :
    ∀ id ∈ json.find? (bytes "id"), validRequestId id = true
  hasMethod :
    json.find? (bytes "method") = some (.string method)
  sameMethod :
    header request (bytes "Mcp-Method") = method
  supported :
    V2026_07_28.supportsMethod method = true
  protocolVersion :
    header request (bytes "MCP-Protocol-Version") =
      V2026_07_28.kProtocolVersion
  hasParams :
    json.find? (bytes "params") = some params ∧
      params.isObject = true
  hasMetadata :
    params.find? (bytes "_meta") = some metadata ∧
      metadata.isObject = true
  sameProtocolVersion :
    metadata.find? (bytes "io.modelcontextprotocol/protocolVersion") =
      some (.string V2026_07_28.kProtocolVersion)
  clientMetadata :
    hasRequiredClientMetadata metadata = true
  sameName :
    method = bytes "tools/call" →
      ∃ name,
        name ≠ [] ∧
          params.find? (bytes "name") = some (.string name) ∧
          header request (bytes "Mcp-Name") = name

@[simp] theorem require_eq_ok_iff
    {condition : Bool}
    {rejection : Rejection}
    {result : Unit} :
    require condition rejection = .ok result ↔ condition = true := by
  cases condition <;> simp [require]

@[simp] theorem mayThrow_eq_ok_iff
    {Value : Type}
    {value : Except JsonException Value}
    {result : Value} :
    mayThrow value = .ok result ↔ value = .ok result := by
  cases value <;> simp [mayThrow, Except.mapError]

theorem readMethod_eq_ok_iff
    {json : Json}
    {method : Bytes} :
    readMethod json = .ok method ↔
      json.isObject = true ∧
        (∀ id ∈ json.find? (bytes "id"), validRequestId id = true) ∧
        json.find? (bytes "jsonrpc") =
          some (.string (bytes "2.0")) ∧
        json.find? (bytes "method") = some (.string method) := by
  unfold readMethod
  simp only [Json.bind_eq_ok_iff, require_eq_ok_iff,
    mayThrow_eq_ok_iff, Json.stringAt_eq_ok_iff, Bool.and_eq_true,
    Option.all_eq_true, decide_eq_true_eq, exists_const]
  constructor
  · rintro ⟨⟨object, validId⟩, version, versionRead, ⟨rfl, -⟩,
      called⟩
    rw [Json.valueOr_getString_eq_ok_iff (by decide)] at versionRead
    exact ⟨object, validId, versionRead, called⟩
  · rintro ⟨object, validId, version, called⟩
    refine ⟨⟨object, validId⟩, bytes "2.0", ?_, ⟨rfl, ?_⟩, called⟩
    · rw [Json.valueOr_getString_eq_ok_iff (by decide)]
      exact version
    · simp [called, Json.isString]

theorem checkProtocolVersion_eq_ok_iff
    {json : Json}
    {protocolVersion : Bytes}
    {result : Unit} :
    checkProtocolVersion json protocolVersion = .ok result ↔
      protocolVersion = V2026_07_28.kProtocolVersion := by
  unfold checkProtocolVersion
  simp only [Json.bind_eq_ok_iff, require_eq_ok_iff,
    decide_eq_true_eq, exists_const]
  constructor
  · exact And.right
  · rintro rfl
    exact ⟨by decide, rfl⟩

theorem readParams_eq_ok_iff
    {json params : Json}
    {protocolVersion : Bytes}
    (nonempty : protocolVersion ≠ []) :
    readParams json protocolVersion = .ok params ↔
      ∃ metadata,
        (json.find? (bytes "params") = some params ∧
          params.isObject = true) ∧
        (params.find? (bytes "_meta") = some metadata ∧
          metadata.isObject = true) ∧
        metadata.find?
            (bytes "io.modelcontextprotocol/protocolVersion") =
          some (.string protocolVersion) ∧
        hasRequiredClientMetadata metadata = true := by
  -- An absent member is read as null, which is not an object.
  have present {owner value : Json} {key : Bytes}
      (read : (owner.find? key).getD .null = value)
      (object : value.isObject = true) :
      owner.find? key = some value := by
    cases found : owner.find? key with
    | none =>
        rw [found] at read
        subst read
        cases object
    | some member =>
        rw [found] at read
        exact congrArg some read
  unfold readParams
  simp only [Json.bind_eq_ok_iff, require_eq_ok_iff,
    mayThrow_eq_ok_iff, Bool.and_eq_true, decide_eq_true_eq,
    exists_const]
  constructor
  · rintro ⟨⟨paramsObject, metadataObject⟩, version, versionRead, rfl,
      client, returned⟩
    cases returned
    rw [Json.valueOr_getString_eq_ok_iff nonempty] at versionRead
    exact ⟨_, ⟨present rfl paramsObject, paramsObject⟩,
      ⟨present rfl metadataObject, metadataObject⟩, versionRead,
      client⟩
  · rintro ⟨metadata, ⟨hasParams, paramsObject⟩,
      ⟨hasMetadata, metadataObject⟩, version, client⟩
    simp only [hasParams, hasMetadata, Option.getD_some]
    exact ⟨⟨paramsObject, metadataObject⟩, protocolVersion,
      (Json.valueOr_getString_eq_ok_iff nonempty).mpr version, rfl,
      client, rfl⟩

theorem nameMatches_iff
    {request : HttpRequest}
    {params : Json} :
    nameMatches request params = true ↔
      ∃ name,
        name ≠ [] ∧
          params.find? (bytes "name") = some (.string name) ∧
          header request (bytes "Mcp-Name") = name := by
  simp only [nameMatches, Bool.and_eq_true, Bool.not_eq_true',
    List.isEmpty_eq_false_iff]
  cases params.find? (bytes "name") with
  | none =>
      simp
  | some value =>
      cases value <;> simp
      tauto

theorem checkHeaders_eq_ok_iff
    {request : HttpRequest}
    {json params : Json}
    {method : Bytes}
    {result : Unit} :
    checkHeaders request json params method = .ok result ↔
      header request (bytes "Mcp-Method") = method ∧
        (method = bytes "tools/call" →
          ∃ name,
            name ≠ [] ∧
              params.find? (bytes "name") = some (.string name) ∧
              header request (bytes "Mcp-Name") = name) ∧
        V2026_07_28.supportsMethod method = true := by
  have named :
      (!V2026_07_28.requiresName method ||
          nameMatches request params) = true ↔
        (method = bytes "tools/call" →
          nameMatches request params = true) := by
    by_cases isCall : method = bytes "tools/call" <;>
      simp [V2026_07_28.requiresName, isCall]
  unfold checkHeaders
  simp only [Json.bind_eq_ok_iff, require_eq_ok_iff,
    decide_eq_true_eq, exists_const, named, nameMatches_iff]

/-- The checks pass exactly for valid requests. -/
theorem checkRequest_eq_ok_iff
    {request : HttpRequest}
    {json : Json}
    {result : Unit} :
    checkRequest request json = .ok result ↔
      ∃ method params metadata,
        ValidRequest request json method params metadata := by
  unfold checkRequest
  simp only [Json.bind_eq_ok_iff, readMethod_eq_ok_iff,
    checkProtocolVersion_eq_ok_iff, checkHeaders_eq_ok_iff,
    exists_const]
  constructor
  · rintro ⟨method, ⟨object, validId, hasVersion, hasMethod⟩,
      protocolVersion, params, read, sameMethod, sameName, supported⟩
    rw [protocolVersion, readParams_eq_ok_iff (by decide)] at read
    obtain ⟨metadata, hasParams, hasMetadata, sameProtocolVersion,
      clientMetadata⟩ := read
    exact ⟨method, params, metadata, {
      object, hasVersion, validId, hasMethod, sameMethod, supported,
      protocolVersion, hasParams, hasMetadata, sameProtocolVersion,
      clientMetadata, sameName }⟩
  · rintro ⟨method, params, metadata, valid⟩
    refine ⟨method,
      ⟨valid.object, valid.validId, valid.hasVersion, valid.hasMethod⟩,
      valid.protocolVersion, params, ?_,
      valid.sameMethod, valid.sameName, valid.supported⟩
    rw [valid.protocolVersion, readParams_eq_ok_iff (by decide)]
    exact ⟨metadata, valid.hasParams, valid.hasMetadata,
      valid.sameProtocolVersion, valid.clientMetadata⟩

/-- Everything a request must satisfy to reach the handler as a client. -/
structure Admits
    (library : JsonLibrary)
    (service : LocalMcpHttpService)
    (request : HttpRequest)
    (profile : McpClientProfile)
    (json : Json) : Prop where
  path :
    request.path = bytes "/mcp"
  httpMethod :
    request.method = bytes "POST"
  origin :
    header request (bytes "Origin") = [] ∨
      header request (bytes "Origin") ∈ service.allowedOrigins
  client :
    ∃ client,
      FirstAuthenticated service request client ∧
        client.profile = profile
  contentType :
    contentTypeIsJson (header request (bytes "Content-Type")) = true
  accept :
    acceptsMediaType (header request (bytes "Accept"))
        (bytes "application/json") = true ∧
      acceptsMediaType (header request (bytes "Accept"))
        (bytes "text/event-stream") = true
  parsed :
    library.parse request.body = .ok json
  valid :
    ∃ method params metadata,
      ValidRequest request json method params metadata

/-- What is checked before the body of a request is read. -/
structure Passes
    (service : LocalMcpHttpService)
    (request : HttpRequest)
    (profile : McpClientProfile) : Prop where
  path :
    request.path = bytes "/mcp"
  httpMethod :
    request.method = bytes "POST"
  origin :
    header request (bytes "Origin") = [] ∨
      header request (bytes "Origin") ∈ service.allowedOrigins
  client :
    ∃ client,
      FirstAuthenticated service request client ∧
        client.profile = profile
  contentType :
    contentTypeIsJson (header request (bytes "Content-Type")) = true
  accept :
    acceptsMediaType (header request (bytes "Accept"))
        (bytes "application/json") = true ∧
      acceptsMediaType (header request (bytes "Accept"))
        (bytes "text/event-stream") = true

section Handle

variable
  {State : Type}
  {library : JsonLibrary}
  {service : LocalMcpHttpService}
  {invoke : Invoke State}
  {request : HttpRequest}
  {state : State}

/-- The handler is reached if the body parses and the checks pass. -/
theorem snd_answer_of_valid
    {profile : McpClientProfile}
    {json : Json}
    (parsed : library.parse request.body = .ok json)
    (valid : checkRequest request json = .ok ()) :
    (LocalMcpHttpService.answer library invoke profile request
        state).2 =
      (invoke profile json state).2 := by
  unfold LocalMcpHttpService.answer
  rw [parsed]
  simp only [valid]
  rcases invoke profile json state with ⟨outcome, after⟩
  cases outcome <;> rfl

/-- Otherwise the handler is not reached. -/
theorem snd_answer_of_invalid
    {profile : McpClientProfile}
    (invalid :
      ∀ json,
        library.parse request.body = .ok json →
        checkRequest request json ≠ .ok ()) :
    (LocalMcpHttpService.answer library invoke profile request
      state).2 = state := by
  unfold LocalMcpHttpService.answer
  cases parsed : library.parse request.body with
  | error thrown =>
      rfl
  | ok json =>
      cases checked : checkRequest request json with
      | error halt =>
          simp only [checked]
          cases halt <;> rfl
      | ok passed =>
          exact absurd checked (invalid json parsed)

/-- A request that passes the gate is answered by the `try` block. -/
theorem handle_of_passes
    {profile : McpClientProfile}
    (passes : Passes service request profile) :
    service.handle library invoke request state =
      (LocalMcpHttpService.catchJson library
          (LocalMcpHttpService.answer library invoke profile request
            state).1,
        (LocalMcpHttpService.answer library invoke profile request
          state).2) := by
  rcases passes.client with ⟨client, first, rfl⟩
  have authenticated := authenticate_eq_some_iff.mpr first
  have notForeign :
      ¬ (¬ header request (bytes "Origin") = [] ∧
        header request (bytes "Origin") ∉ service.allowedOrigins) := by
    rintro ⟨present, foreign⟩
    exact passes.origin.elim present foreign
  simp [LocalMcpHttpService.handle, passes.path, kMcpPath,
    passes.httpMethod, notForeign, authenticated, passes.contentType,
    passes.accept]

theorem Admits.passes
    {profile : McpClientProfile}
    {json : Json}
    (admits : Admits library service request profile json) :
    Passes service request profile where
  path := admits.path
  httpMethod := admits.httpMethod
  origin := admits.origin
  client := admits.client
  contentType := admits.contentType
  accept := admits.accept

/-- An admitted request is answered by the `try` block. -/
theorem handle_of_admits
    {profile : McpClientProfile}
    {json : Json}
    (admits : Admits library service request profile json) :
    service.handle library invoke request state =
      (LocalMcpHttpService.catchJson library
          (LocalMcpHttpService.answer library invoke profile request
            state).1,
        (LocalMcpHttpService.answer library invoke profile request
          state).2) :=
  handle_of_passes admits.passes

/-- An admitted request leaves the state its handler leaves. -/
theorem snd_handle_of_admits
    {profile : McpClientProfile}
    {json : Json}
    (admits : Admits library service request profile json) :
    (service.handle library invoke request state).2 =
      (invoke profile json state).2 := by
  rw [handle_of_admits admits]
  exact snd_answer_of_valid admits.parsed
    (checkRequest_eq_ok_iff.mpr admits.valid)

/-- A request that is not admitted leaves the state alone. -/
theorem snd_handle_of_not_admits
    (refused :
      ∀ profile json,
        ¬ Admits library service request profile json) :
    (service.handle library invoke request state).2 = state := by
  unfold LocalMcpHttpService.handle
  split
  · rfl
  next path =>
  simp only
  split
  · rfl
  split
  · rfl
  next httpMethod =>
  split
  · rfl
  next origin =>
  cases authenticated : service.authenticate request with
  | none =>
      rfl
  | some client =>
      simp only
      split
      · rfl
      next contentType =>
      split
      · rfl
      next accept =>
      refine snd_answer_of_invalid fun json parsed checked =>
        refused client.profile json {
          path := not_not.mp path
          httpMethod := not_not.mp httpMethod
          origin := ?_
          client :=
            ⟨client, authenticate_eq_some_iff.mp authenticated, rfl⟩
          contentType := by simpa using contentType
          accept := by simpa using accept
          parsed := parsed
          valid := checkRequest_eq_ok_iff.mp checked
        }
      by_cases absent : header request (bytes "Origin") = []
      · exact Or.inl absent
      · right
        simpa [absent] using origin

/-- At most one client and one body can be admitted. -/
theorem Admits.unique
    {profile other : McpClientProfile}
    {json otherJson : Json}
    (admits : Admits library service request profile json)
    (admitsOther : Admits library service request other otherJson) :
    profile = other ∧ json = otherJson := by
  rcases admits.client with ⟨client, first, rfl⟩
  rcases admitsOther.client with ⟨otherClient, otherFirst, rfl⟩
  have sameClient :=
    (authenticate_eq_some_iff.mpr first).symm.trans
      (authenticate_eq_some_iff.mpr otherFirst)
  have sameJson := admits.parsed.symm.trans admitsOther.parsed
  rw [Option.some.inj sameClient]
  exact ⟨rfl, Except.ok.inj sameJson⟩

end Handle

/-- The calls of the protocol handler that one request makes. -/
def handlerCalls
    (library : JsonLibrary)
    (service : LocalMcpHttpService)
    (result : McpClientProfile → Json → Except Exception Json)
    (request : HttpRequest) : List (McpClientProfile × Json) :=
  (service.handle library
    (fun profile json calls =>
      (result profile json, calls ++ [(profile, json)]))
    request []).2

/--
The protocol handler is called exactly for admitted requests, once, and as the
first enabled client whose token the request presents.  The state behind the
handler moves by that call and is untouched otherwise.
-/
theorem handlerCalls_iff_admits
    (service : LocalMcpHttpService)
    (result : McpClientProfile → Json → Except Exception Json)
    (context : HandlerContext)
    (request : HttpRequest)
    (state : TelegramApplicationService) :
    (∀ profile json,
      Admits context.library service request profile json ↔
        handlerCalls context.library service result request =
          [(profile, json)]) ∧
    ((∀ profile json,
        ¬ Admits context.library service request profile json) ↔
      handlerCalls context.library service result request = []) ∧
    (∀ profile json,
      Admits context.library service request profile json →
      (service.handle context.library
          (LocalMcpHttpService.invokeProtocolHandler context)
          request state).2 =
        (V2026_07_28.handle { context with profile := profile } state
          json).2) ∧
    ((∀ profile json,
        ¬ Admits context.library service request profile json) →
      (service.handle context.library
        (LocalMcpHttpService.invokeProtocolHandler context)
        request state).2 = state) := by
  have whenAdmitted {profile : McpClientProfile} {json : Json}
      (admits :
        Admits context.library service request profile json) :
      handlerCalls context.library service result request =
        [(profile, json)] :=
    snd_handle_of_admits admits
  have whenRefused
      (refused :
        ∀ profile json,
          ¬ Admits context.library service request profile json) :
      handlerCalls context.library service result request = [] :=
    snd_handle_of_not_admits refused
  refine ⟨?_, ⟨whenRefused, ?_⟩, ?_, ?_⟩
  · intro profile json
    refine ⟨whenAdmitted, ?_⟩
    intro called
    by_contra notAdmitted
    by_cases refused :
        ∀ other otherJson,
          ¬ Admits context.library service request other otherJson
    · rw [whenRefused refused] at called
      cases called
    · push Not at refused
      rcases refused with ⟨other, otherJson, admits⟩
      rw [whenAdmitted admits] at called
      cases called
      exact notAdmitted admits
  · intro quiet profile json admits
    rw [whenAdmitted admits] at quiet
    cases quiet
  · intro profile json admits
    exact snd_handle_of_admits admits
  · exact snd_handle_of_not_admits

/-- A request to list the tools. -/
def listToolsJson : Json :=
  .ofMembers
    [(bytes "jsonrpc", .string (bytes "2.0")),
      (bytes "id", .numberUnsigned 1),
      (bytes "method", .string (bytes "tools/list")),
      (bytes "params", .ofMembers
        [(bytes "_meta", .ofMembers
          [(bytes "io.modelcontextprotocol/protocolVersion",
              .string V2026_07_28.kProtocolVersion),
            (bytes "io.modelcontextprotocol/clientInfo",
              serverInfo),
            (bytes "io.modelcontextprotocol/clientCapabilities",
              .ofMembers [])])])]

/-- Its transport. -/
def listToolsRequest : HttpRequest where
  method := bytes "POST"
  path := bytes "/mcp"
  headers :=
    [(bytes "authorization", bytes "bearer secret"),
      (bytes "Content-Type", bytes "application/json; charset=utf-8"),
      (bytes "Accept", bytes "application/json, text/event-stream;q=0.5"),
      (bytes "MCP-Protocol-Version", V2026_07_28.kProtocolVersion),
      (bytes "Mcp-Method", bytes "tools/list")]
  body := bytes "request"

/-- A host with one client. -/
def oneClientService : LocalMcpHttpService where
  clients :=
    [{ profile := { id := bytes "reader" }
       bearerToken := bytes "secret" }]

/-- A handler context whose library parses the body of that request. -/
def listToolsContext : HandlerContext where
  library := {
    parse := fun text =>
      if text = bytes "request" then
        .ok listToolsJson
      else
        .error .parseError
    dump := fun _ => .ok []
    floatToInt64 := fun _ => 0
    floatToUInt32 := fun _ => 0
  }
  policyEngine := policyEngine
  environment := {}
  tools := {}
  profile := { id := [] }

theorem admits_listToolsRequest :
    Admits listToolsContext.library oneClientService listToolsRequest
      { id := bytes "reader" } listToolsJson :=
  ((handlerCalls_iff_admits oneClientService (fun _ json => .ok json)
    listToolsContext listToolsRequest {}).1 _ _).mpr rfl

end TgGate
