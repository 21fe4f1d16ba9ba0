import TgGate.ExternalText
import TgGate.HeaderVerdicts

namespace TgGate

open Library

/-!
# The ids of responses

A response carries the id of its request, as long as the host notices by
itself what is wrong with the request.  An id of a type that JSON-RPC does not
know is echoed all the same, and whatever leaves the `try` block by an
exception is reported under no id: a text that is none, a version or a tool
result that cannot be serialised.
-/

/-- The id under which a request is to be answered. -/
def expectedId (json : Json) : Json :=
  match json.find? (bytes "id") with
  | some id => if validRequestId id then id else .null
  | none => .null

/-- The id of a request is of a type that JSON-RPC knows. -/
def ValidIds (json : Json) : Prop :=
  ∀ id, json.find? (bytes "id") = some id → validRequestId id = true

/-- A client reads a JSON-RPC object under the expected id. -/
def EchoesId
    (library : JsonLibrary)
    (json : Json)
    (outcome : Except Exception HttpResponse) : Prop :=
  ∃ response answer,
    outcome = .ok response ∧
      library.parse response.body = .ok answer ∧
      answer.find? (bytes "jsonrpc") = some (.string (bytes "2.0")) ∧
      answer.find? (bytes "id") = some (expectedId json).reread

/-- The documents that the host may write in answer to a request. -/
inductive HostDocument
    (context : HandlerContext)
    (profile : McpClientProfile)
    (state : TelegramApplicationService)
    (request : HttpRequest)
    (json : Json) : Json → Prop
  | malformed :
      HostDocument context profile state request json
        (rejectionDocument malformed)
  | rejected
      {rejection : Rejection}
      (halted :
        checkRequest request json = .error (.rejected rejection)) :
      HostDocument context profile state request json
        (rejectionDocument rejection)
  | answered
      {body : Json}
      (returned :
        (LocalMcpHttpService.invokeProtocolHandler context profile json
          state).1 = .ok body) :
      HostDocument context profile state request json body

/-- The library reads back what the host writes. -/
def ReadsAnswers
    (context : HandlerContext)
    (profile : McpClientProfile)
    (state : TelegramApplicationService)
    (request : HttpRequest)
    (json : Json) : Prop :=
  ∀ {document text},
    HostDocument context profile state request json document →
    context.library.dump document = .ok text →
    context.library.parse text = .ok document.reread

section Documents

/-- Only null is read back as null. -/
theorem reread_eq_null_iff {json : Json} :
    json.reread = .null ↔ json = .null := by
  cases json with
  | numberInteger value =>
      unfold Json.reread
      split <;> simp
  | null | boolean | numberUnsigned | numberFloat | string | array
  | object =>
      simp [Json.reread]

/-- What a document under an id tells a client. -/
theorem echoesId_iff_of_document
    {library : JsonLibrary}
    {json document id : Json}
    {response : HttpResponse}
    (read : library.parse response.body = .ok document.reread)
    (version :
      document.find? (bytes "jsonrpc") = some (.string (bytes "2.0")))
    (isId : document.find? (bytes "id") = some id) :
    EchoesId library json (.ok response) ↔
      id.reread = (expectedId json).reread := by
  constructor
  · rintro ⟨other, answer, same, isRead, -, sameId⟩
    obtain rfl := Except.ok.inj same
    obtain rfl := Except.ok.inj (read.symm.trans isRead)
    rw [Json.find?_reread, isId, Option.map_some, Option.some.injEq]
      at sameId
    exact sameId
  · intro sameId
    refine ⟨response, document.reread, rfl, read, ?_, ?_⟩
    · rw [Json.find?_reread, version, Option.map_some,
        Json.reread_string]
    · rw [Json.find?_reread, isId, Option.map_some, sameId]

/-- A valid id is expected as it is. -/
theorem expectedId_of_valid
    {json : Json}
    (valid : ValidIds json) :
    expectedId json = echoedId json := by
  unfold expectedId echoedId
  cases found : json.find? (bytes "id") with
  | none =>
      rfl
  | some id =>
      simp [valid id found]

/-- The host echoes what is expected if the id is valid. -/
theorem reread_echoedId_iff {json : Json} :
    (echoedId json).reread = (expectedId json).reread ↔ ValidIds json := by
  constructor
  · intro same id found
    by_contra invalid
    have isNull : (expectedId json).reread = .null := by
      rw [expectedId, found]
      simp only [if_neg invalid]
      rfl
    rw [isNull, reread_eq_null_iff, echoedId, found, Option.getD_some]
      at same
    subst same
    exact invalid rfl
  · intro valid
    rw [expectedId_of_valid valid]

theorem version_rejectionDocument (rejection : Rejection) :
    (rejectionDocument rejection).find? (bytes "jsonrpc") =
      some (.string (bytes "2.0")) := by
  simp [rejectionDocument]

theorem id_rejectionDocument (rejection : Rejection) :
    (rejectionDocument rejection).find? (bytes "id") =
      some rejection.id := by
  simp [rejectionDocument]

end Documents

section Reasons

variable {request : HttpRequest}
variable {json : Json}

/-- A member that is read as a text is one, or absent. -/
def ReadableText (json : Json) (key : Bytes) : Prop :=
  ∀ value, json.find? key = some value → value.isString = true

/-- Reading a text fails on a member that is none. -/
theorem readableText_iff
    {key : Bytes}
    (object : json.isObject = true) :
    ReadableText json key ↔
      json.valueOr key Json.getString [] ≠ .error .typeError := by
  unfold ReadableText Json.valueOr
  rw [if_pos object]
  cases found : json.find? key with
  | none =>
      simp
  | some value =>
      cases value <;> simp [Json.getString, Json.isString]

/-- The request names a method under the version of JSON-RPC. -/
structure NamesMethod (json : Json) : Prop where
  version :
    json.find? (bytes "jsonrpc") = some (.string (bytes "2.0"))
  method :
    ∃ method, json.find? (bytes "method") = some (.string method)

/-- The texts of a request that the checks read or repeat are texts. -/
structure ReadableTexts (request : HttpRequest) (json : Json) : Prop where
  version :
    ReadableText json (bytes "jsonrpc")
  requested :
    NamesMethod json →
    ValidUtf8 (header request (bytes "MCP-Protocol-Version"))
  metadata :
    NamesMethod json →
    header request (bytes "MCP-Protocol-Version") =
      V2026_07_28.kProtocolVersion →
    ∀ {params metadata},
      json.find? (bytes "params") = some params →
      params.find? (bytes "_meta") = some metadata →
      ReadableText metadata
        (bytes "io.modelcontextprotocol/protocolVersion")

theorem namesMethod_of_readMethod
    {method : Bytes}
    (read : readMethod json = .ok method) :
    NamesMethod json := by
  obtain ⟨-, -, version, called⟩ := readMethod_eq_ok_iff.mp read
  exact ⟨version, method, called⟩

theorem NamesMethod.readMethod
    (names : NamesMethod json)
    (object : json.isObject = true)
    (validIds : ValidIds json) :
    ∃ method, readMethod json = .ok method := by
  obtain ⟨method, called⟩ := names.method
  exact ⟨method, readMethod_eq_ok_iff.mpr
    ⟨object, validIds, names.version, called⟩⟩

/-- Why the checks of a request stop. -/
inductive HaltReason
    (request : HttpRequest)
    (json : Json) : Halt → Prop
  | told (status : Nat) (code : Int64) (message : String) :
      HaltReason request json
        (.rejected ⟨status, echoedId json, code, bytes message, .null⟩)
  | requested
      {method : Bytes}
      (read : readMethod json = .ok method)
      (present : header request (bytes "MCP-Protocol-Version") ≠ [])
      (other :
        header request (bytes "MCP-Protocol-Version") ≠
          V2026_07_28.kProtocolVersion) :
      HaltReason request json
        (.rejected (unsupportedVersion json
          (header request (bytes "MCP-Protocol-Version"))))
  | version
      (unreadable : ¬ ReadableText json (bytes "jsonrpc")) :
      HaltReason request json (.thrown .typeError)
  | metadata
      {method : Bytes}
      {params metadata : Json}
      (read : readMethod json = .ok method)
      (current :
        header request (bytes "MCP-Protocol-Version") =
          V2026_07_28.kProtocolVersion)
      (hasParams : json.find? (bytes "params") = some params)
      (hasMetadata : params.find? (bytes "_meta") = some metadata)
      (unreadable :
        ¬ ReadableText metadata
          (bytes "io.modelcontextprotocol/protocolVersion")) :
      HaltReason request json (.thrown .typeError)

theorem haltReason_of_readMethod
    {halt : Halt}
    (failed : readMethod json = .error halt) :
    HaltReason request json halt := by
  unfold readMethod at failed
  simp only [bind_eq_error_iff, require_eq_error_iff,
    mayThrow_eq_error_iff, require_eq_ok_iff, Bool.and_eq_true] at failed
  rcases failed with ⟨-, rfl⟩ | ⟨-, ⟨object, -⟩, failed⟩
  · exact .told _ _ _
  · rcases failed with ⟨thrown, unread, rfl⟩ | ⟨version, -, failed⟩
    · obtain rfl := valueOr_getString_eq_error unread
      exact .version fun readable =>
        (readableText_iff object).mp readable unread
    · rcases failed with ⟨-, rfl⟩ | ⟨-, ⟨-, isText⟩, thrown, unread, -⟩
      · exact .told _ _ _
      · cases found : json.find? (bytes "method") with
        | none =>
            simp [found] at isText
        | some value =>
            cases value with
            | string text =>
                rw [Json.stringAt_eq_ok_iff.mpr found] at unread
                cases unread
            | null | boolean | numberInteger | numberUnsigned
            | numberFloat | array | object =>
                simp [found, Json.isString] at isText

/-- A member that is an object where null is the default is present. -/
theorem find?_of_isObject_getD
    {key : Bytes}
    (object : ((json.find? key).getD .null).isObject = true) :
    json.find? key = some ((json.find? key).getD .null) := by
  cases found : json.find? key with
  | none =>
      rw [found] at object
      cases object
  | some value =>
      rfl

theorem haltReason_of_readParams
    {method : Bytes}
    {halt : Halt}
    (read : readMethod json = .ok method)
    (current :
      header request (bytes "MCP-Protocol-Version") =
        V2026_07_28.kProtocolVersion)
    (failed :
      readParams json (header request (bytes "MCP-Protocol-Version")) =
        .error halt) :
    HaltReason request json halt := by
  unfold readParams at failed
  simp only [bind_eq_error_iff, require_eq_error_iff,
    mayThrow_eq_error_iff, require_eq_ok_iff, Bool.and_eq_true] at failed
  rcases failed with ⟨-, rfl⟩ | ⟨-, ⟨isParams, isMetadata⟩, failed⟩
  · exact .told _ _ _
  · rcases failed with ⟨thrown, unread, rfl⟩ | ⟨version, -, failed⟩
    · obtain rfl := valueOr_getString_eq_error unread
      exact .metadata read current (find?_of_isObject_getD isParams)
        (find?_of_isObject_getD isMetadata) fun readable =>
          (readableText_iff isMetadata).mp readable unread
    · rcases failed with ⟨-, rfl⟩ | ⟨-, -, failed⟩
      · exact .told _ _ _
      · rcases failed with ⟨-, rfl⟩ | ⟨-, -, impossible⟩
        · exact .told _ _ _
        · cases impossible

theorem haltReason_of_checkRequest
    {halt : Halt}
    (failed : checkRequest request json = .error halt) :
    HaltReason request json halt := by
  unfold checkRequest at failed
  rcases bind_eq_error_iff.mp failed with failed | ⟨method, read, failed⟩
  · exact haltReason_of_readMethod failed
  · rcases bind_eq_error_iff.mp failed with failed | ⟨done, checked, failed⟩
    · simp only [checkProtocolVersion, bind_eq_error_iff,
        require_eq_error_iff, require_eq_ok_iff] at failed
      rcases failed with ⟨-, rfl⟩ | ⟨-, present, other, rfl⟩
      · exact .told _ _ _
      · exact .requested read (by simpa using present)
          (by simpa using other)
    · have current := (checkProtocolVersion_eq_ok_iff.mp checked)
      rcases bind_eq_error_iff.mp failed with
        failed | ⟨params, -, failed⟩
      · exact haltReason_of_readParams read current failed
      · simp only [checkHeaders, bind_eq_error_iff,
          require_eq_error_iff, require_eq_ok_iff] at failed
        rcases failed with ⟨-, rfl⟩ | ⟨-, -, failed⟩
        · exact .told _ _ _
        · rcases failed with ⟨-, rfl⟩ | ⟨-, -, -, rfl⟩
          · exact .told _ _ _
          · exact .told _ _ _

/-- An id of another type is noticed first, and echoed. -/
theorem checkRequest_of_invalidId
    {id : Json}
    (object : json.isObject = true)
    (found : json.find? (bytes "id") = some id)
    (invalid : validRequestId id = false) :
    checkRequest request json =
      .error (.rejected
        ⟨400, id, -32600, bytes "Invalid JSON-RPC request", .null⟩) := by
  have echoed : echoedId json = id := by
    rw [echoedId, found]
    rfl
  simp [checkRequest, readMethod, require, object, found, invalid, echoed,
    bind, Except.bind]

/-- A version that is no text is the next thing to be noticed. -/
theorem checkRequest_of_unreadableVersion
    (object : json.isObject = true)
    (validIds : ValidIds json)
    (unreadable : ¬ ReadableText json (bytes "jsonrpc")) :
    checkRequest request json = .error (.thrown .typeError) := by
  have allValid :
      (json.find? (bytes "id")).all validRequestId = true := by
    rw [Option.all_eq_true]
    exact validIds
  rw [readableText_iff object, not_not] at unreadable
  simp [checkRequest, readMethod, require, mayThrow, object, allValid,
    unreadable, bind, Except.bind, Except.mapError]

theorem checkRequest_of_unsupportedVersion
    {method : Bytes}
    (read : readMethod json = .ok method)
    (present : header request (bytes "MCP-Protocol-Version") ≠ [])
    (other :
      header request (bytes "MCP-Protocol-Version") ≠
        V2026_07_28.kProtocolVersion) :
    checkRequest request json =
      .error (.rejected (unsupportedVersion json
        (header request (bytes "MCP-Protocol-Version")))) := by
  simp [checkRequest, read, checkProtocolVersion, require, present, other,
    bind, Except.bind, unsupportedVersion]

theorem checkRequest_of_unreadableMetadata
    {method : Bytes}
    {params metadata : Json}
    (read : readMethod json = .ok method)
    (current :
      header request (bytes "MCP-Protocol-Version") =
        V2026_07_28.kProtocolVersion)
    (hasParams : json.find? (bytes "params") = some params)
    (hasMetadata : params.find? (bytes "_meta") = some metadata)
    (unreadable :
      ¬ ReadableText metadata
        (bytes "io.modelcontextprotocol/protocolVersion")) :
    checkRequest request json = .error (.thrown .typeError) := by
  have isObject : metadata.isObject = true := by
    simp only [ReadableText, not_forall] at unreadable
    obtain ⟨value, found, -⟩ := unreadable
    exact Json.isObject_of_find? found
  have checked :
      checkProtocolVersion json V2026_07_28.kProtocolVersion = .ok () :=
    rfl
  rw [readableText_iff isObject, not_not] at unreadable
  simp [checkRequest, read, current, checked, readParams, require, mayThrow,
    hasParams, hasMetadata, Json.isObject_of_find? hasMetadata, isObject,
    unreadable, bind, Except.bind, Except.mapError]

/-- The first text that is none is found out. -/
theorem readableTexts_of_told
    {status : Nat}
    {code : Int64}
    {message : String}
    (object : json.isObject = true)
    (validIds : ValidIds json)
    (halted :
      checkRequest request json =
        .error (.rejected
          ⟨status, echoedId json, code, bytes message, .null⟩)) :
    ReadableTexts request json := by
  have notThrown :
      checkRequest request json ≠ .error (.thrown .typeError) := by
    rw [halted]
    simp
  constructor
  case version =>
    by_contra unreadable
    exact notThrown
      (checkRequest_of_unreadableVersion object validIds unreadable)
  case requested =>
    intro names
    obtain ⟨method, read⟩ := names.readMethod object validIds
    by_contra invalid
    have other :=
      @checkRequest_of_unsupportedVersion request json method read
        (fun absent => invalid (absent ▸ validUtf8_bytes ""))
        (fun current => invalid (current ▸ validUtf8_bytes _))
    rw [halted] at other
    simp [unsupportedVersion, Json.ofMembers] at other
  case metadata =>
    intro names current params metadata hasParams hasMetadata
    obtain ⟨method, read⟩ := names.readMethod object validIds
    by_contra unreadable
    exact notThrown
      (checkRequest_of_unreadableMetadata read current hasParams
        hasMetadata unreadable)

end Reasons

section Halts

variable {context : HandlerContext}
variable {service : LocalMcpHttpService}
variable {profile : McpClientProfile}
variable {state : TelegramApplicationService}
variable {request : HttpRequest}
variable {json : Json}

/-- What the host answers when the checks stop. -/
theorem hostAnswer_of_halt
    {halt : Halt}
    (passes : Passes service request profile)
    (parsed : context.library.parse request.body = .ok json)
    (halted : checkRequest request json = .error halt) :
    hostAnswer context service request state =
      haltOutcome context.library halt := by
  rw [hostAnswer, handle_of_passes passes]
  simp only [LocalMcpHttpService.answer, parsed, halted]
  cases halt <;> rfl

/-- A rejection is read under the id of what is reported. -/
theorem echoesId_haltOutcome_iff
    {halt : Halt}
    (checks : ChecksUtf8 context.library)
    (reads : ReadsAnswers context profile state request json)
    (written :
      HostDocument context profile state request json
        (rejectionDocument halt.reported)) :
    EchoesId context.library json (haltOutcome context.library halt) ↔
      halt.reported.id.reread = (expectedId json).reread := by
  obtain ⟨text, dumped, answered⟩ := haltOutcome_eq checks halt
  rw [answered]
  exact echoesId_iff_of_document (reads written dumped)
    (version_rejectionDocument _) (id_rejectionDocument _)

/-- What is reported as malformed is read under null. -/
theorem echoesId_iff_of_malformed
    {halt : Halt}
    (checks : ChecksUtf8 context.library)
    (reads : ReadsAnswers context profile state request json)
    (reported : halt.reported = malformed) :
    EchoesId context.library json (haltOutcome context.library halt) ↔
      expectedId json = .null := by
  have written :
      HostDocument context profile state request json
        (rejectionDocument halt.reported) := by
    rw [reported]
    exact .malformed
  have isNull : malformed.id.reread = .null :=
    reread_eq_null_iff.mpr rfl
  rw [echoesId_haltOutcome_iff checks reads written, reported, isNull,
    ← reread_eq_null_iff, eq_comm]

/-- A rejection that can be written is read under its own id. -/
theorem echoesId_iff_of_rejected
    {rejection : Rejection}
    (halted :
      checkRequest request json = .error (.rejected rejection))
    (checks : ChecksUtf8 context.library)
    (reads : ReadsAnswers context profile state request json)
    (valid : (rejectionDocument rejection).ValidText) :
    EchoesId context.library json
        (haltOutcome context.library (.rejected rejection)) ↔
      rejection.id.reread = (expectedId json).reread := by
  have reported : (Halt.rejected rejection).reported = rejection :=
    if_pos valid
  have written :
      HostDocument context profile state request json
        (rejectionDocument (Halt.rejected rejection).reported) := by
    rw [reported]
    exact .rejected halted
  rw [echoesId_haltOutcome_iff checks reads written, reported]

/-- If a text that is none stops the request, null is expected. -/
theorem expectsNull_iff_of_unreadable
    (validIds : ValidIds json)
    (unreadable : ¬ ReadableTexts request json) :
    expectedId json = .null ↔
      ValidIds json ∧
        (expectedId json ≠ .null → ReadableTexts request json) := by
  constructor
  · intro isNull
    exact ⟨validIds, fun notNull => absurd isNull notNull⟩
  · rintro ⟨-, readable⟩
    by_contra notNull
    exact unreadable (readable notNull)

/--
A request whose checks stop keeps its id if the id is valid, and no other text
stops the checks by an exception.
-/
theorem echoesId_iff_of_halted
    {halt : Halt}
    (checks : ChecksUtf8 context.library)
    (reads : ReadsAnswers context profile state request json)
    (passes : Passes service request profile)
    (parsed : context.library.parse request.body = .ok json)
    (object : json.isObject = true)
    (halted : checkRequest request json = .error halt) :
    EchoesId context.library json
        (hostAnswer context service request state) ↔
      ValidIds json ∧
        (expectedId json ≠ .null → ReadableTexts request json) := by
  have valid := checks.parses parsed
  rw [hostAnswer_of_halt passes parsed halted]
  cases haltReason_of_checkRequest halted with
  | told status code message =>
      rw [echoesId_iff_of_rejected halted checks reads
        (validText_told valid status code message), reread_echoedId_iff]
      refine (and_iff_left_of_imp fun validIds _ => ?_).symm
      exact readableTexts_of_told object validIds halted
  | requested read present other =>
      have validIds : ValidIds json := (readMethod_eq_ok_iff.mp read).2.1
      by_cases validVersion :
          ValidUtf8 (header request (bytes "MCP-Protocol-Version"))
      · rw [echoesId_iff_of_rejected halted checks reads
          (validText_unsupportedVersion valid validVersion)]
        refine iff_of_true (reread_echoedId_iff.mpr validIds)
          ⟨validIds, fun _ => ?_⟩
        constructor
        case version =>
          intro value found
          have isVersion := (readMethod_eq_ok_iff.mp read).2.2.1
          rw [isVersion] at found
          exact Option.some.inj found ▸ rfl
        case requested =>
          exact fun _ => validVersion
        case metadata =>
          exact fun _ current => absurd current other
      · have reported :
            (Halt.rejected (unsupportedVersion json
              (header request (bytes "MCP-Protocol-Version")))).reported =
              malformed :=
          if_neg (not_validText_unsupportedVersion validVersion)
        rw [echoesId_iff_of_malformed checks reads reported]
        refine expectsNull_iff_of_unreadable validIds fun readable => ?_
        exact validVersion
          (readable.requested (namesMethod_of_readMethod read))
  | version unreadable =>
      have validIds : ValidIds json := by
        intro id found
        by_contra invalid
        have rejected :=
          @checkRequest_of_invalidId request json id object found
            (by simpa using invalid)
        rw [halted] at rejected
        simp at rejected
      rw [echoesId_iff_of_malformed checks reads rfl]
      exact expectsNull_iff_of_unreadable validIds fun readable =>
        unreadable readable.version
  | metadata read current hasParams hasMetadata unreadable =>
      have validIds : ValidIds json := (readMethod_eq_ok_iff.mp read).2.1
      rw [echoesId_iff_of_malformed checks reads rfl]
      refine expectsNull_iff_of_unreadable validIds fun readable => ?_
      exact unreadable
        (readable.metadata (namesMethod_of_readMethod read) current
          hasParams hasMetadata)

end Halts

end TgGate
