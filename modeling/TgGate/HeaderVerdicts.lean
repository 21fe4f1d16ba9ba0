import TgGate.HeaderFields
import TgGate.RejectionReports

namespace TgGate

open Library

/-!
# What the headers of a JSON-RPC request decide

The checks of a JSON-RPC request read three headers: the protocol version, the
method and the name.  `verdict` is the outcome by their values.  If all values
that may be looked up lead to one reported reason, every check that is reached
is decided: all values fail it or all pass it.
-/

/-- A request with one field only. -/
def oneField (name value : Bytes) : HttpRequest where
  method := []
  path := []
  headers := [(name, value)]
  body := []

/-- The value of the name header repeats the name of the parameters. -/
def nameRepeats (params : Json) (name : Bytes) : Bool :=
  nameMatches (oneField (bytes "Mcp-Name") name) params

section Verdicts

/-- The version header is missing. -/
def versionRequired (json : Json) : Rejection where
  status := 400
  id := echoedId json
  code := -32020
  message := bytes "MCP-Protocol-Version is required"

/-- The version header has another version. -/
def unsupportedVersion (json : Json) (version : Bytes) : Rejection where
  status := 400
  id := echoedId json
  code := -32022
  message := bytes "Unsupported protocol version"
  data := .ofMembers
    [(bytes "supported",
        .array [.string V2026_07_28.kProtocolVersion]),
      (bytes "requested", .string version)]

/-- The method header has another method. -/
def methodMismatch (json : Json) : Rejection where
  status := 400
  id := echoedId json
  code := -32020
  message := bytes "Mcp-Method does not match the JSON-RPC method"

/-- The name header has another name. -/
def nameMismatch (json : Json) : Rejection where
  status := 400
  id := echoedId json
  code := -32020
  message := bytes "Mcp-Name does not match the JSON-RPC request"

/-- The method is not served. -/
def methodNotFound (json : Json) : Rejection where
  status := 404
  id := echoedId json
  code := -32601
  message := bytes "Method not found"

/-- What the checks say after the parameters were read. -/
def paramsVerdict
    (json params : Json)
    (method methodHeader nameHeader : Bytes) : Except Halt Unit :=
  if methodHeader ≠ method then
    .error (.rejected (methodMismatch json))
  else if V2026_07_28.requiresName method &&
      !nameRepeats params nameHeader then
    .error (.rejected (nameMismatch json))
  else if V2026_07_28.supportsMethod method then
    .ok ()
  else
    .error (.rejected (methodNotFound json))

/-- What the checks say, by the values of the three headers they read. -/
def verdict
    (json : Json)
    (method version methodHeader nameHeader : Bytes) :
    Except Halt Unit :=
  if version = [] then
    .error (.rejected (versionRequired json))
  else if version ≠ V2026_07_28.kProtocolVersion then
    .error (.rejected (unsupportedVersion json version))
  else
    match readParams json V2026_07_28.kProtocolVersion with
    | .error halt => .error halt
    | .ok params =>
        paramsVerdict json params method methodHeader nameHeader

theorem verdict_of_params
    {json params : Json}
    (read : readParams json V2026_07_28.kProtocolVersion = .ok params)
    (method methodHeader nameHeader : Bytes) :
    verdict json method V2026_07_28.kProtocolVersion methodHeader
        nameHeader =
      paramsVerdict json params method methodHeader nameHeader := by
  rw [verdict, if_neg (by decide), if_neg (by simp), read]

theorem checkRequest_withFields
    (request : HttpRequest)
    (choice : Bytes → Bytes)
    {json : Json}
    {method : Bytes}
    (read : readMethod json = .ok method) :
    checkRequest (request.withFields choice) json =
      verdict json method
        (choice (bytes "MCP-Protocol-Version"))
        (choice (bytes "Mcp-Method"))
        (choice (bytes "Mcp-Name")) := by
  have version :=
    header_withFields request choice
      (show bytes "MCP-Protocol-Version" ∈ headerNames by decide)
  have methodHeader :=
    header_withFields request choice
      (show bytes "Mcp-Method" ∈ headerNames by decide)
  have nameHeader :=
    header_withFields request choice
      (show bytes "Mcp-Name" ∈ headerNames by decide)
  have isNamed :
      ∀ params,
        nameMatches (request.withFields choice) params =
          nameRepeats params (choice (bytes "Mcp-Name")) := by
    intro params
    rw [nameMatches, nameHeader]
    rfl
  unfold checkRequest verdict
  rw [read, version]
  generalize choice (bytes "MCP-Protocol-Version") = requested
  by_cases absent : requested = []
  · subst requested
    rfl
  · by_cases isVersion : requested = V2026_07_28.kProtocolVersion
    · subst requested
      have supported :
          checkProtocolVersion json V2026_07_28.kProtocolVersion =
            .ok () :=
        rfl
      rw [if_neg absent, if_neg (by simp)]
      cases read : readParams json V2026_07_28.kProtocolVersion with
      | error halt =>
          simp [supported, read, bind, Except.bind]
      | ok params =>
          simp only [supported, read, bind, Except.bind, checkHeaders,
            methodHeader, isNamed, require, paramsVerdict]
          by_cases sameMethod : choice (bytes "Mcp-Method") = method
          · cases V2026_07_28.requiresName method <;>
              cases nameRepeats params (choice (bytes "Mcp-Name")) <;>
              cases V2026_07_28.supportsMethod method <;>
              simp [sameMethod, nameMismatch, methodNotFound]
          · simp [sameMethod, methodMismatch]
    · rw [if_neg absent, if_pos isVersion]
      simp [checkProtocolVersion, require, absent, isVersion, bind,
        Except.bind, unsupportedVersion]

end Verdicts

section Failures

variable {Failure First Second : Type}

theorem bind_eq_error_iff
    {first : Except Failure First}
    {next : First → Except Failure Second}
    {failure : Failure} :
    first >>= next = .error failure ↔
      first = .error failure ∨
        ∃ value, first = .ok value ∧ next value = .error failure := by
  cases first with
  | error thrown =>
      simp [bind, Except.bind]
  | ok value =>
      simp [bind, Except.bind]

theorem require_eq_error_iff
    {condition : Bool}
    {rejection : Rejection}
    {halt : Halt} :
    require condition rejection = .error halt ↔
      condition = false ∧ halt = .rejected rejection := by
  cases condition <;> simp [require, eq_comm]

theorem mayThrow_eq_error_iff
    {Value : Type}
    {value : Except JsonException Value}
    {halt : Halt} :
    mayThrow value = .error halt ↔
      ∃ thrown, value = .error thrown ∧ halt = .thrown thrown := by
  cases value <;> simp [mayThrow, Except.mapError, eq_comm]

/-- Reading a text with a default throws a type error only. -/
theorem valueOr_getString_eq_error
    {json : Json}
    {key fallback : Bytes}
    {thrown : JsonException}
    (failed :
      json.valueOr key Json.getString fallback = .error thrown) :
    thrown = .typeError := by
  unfold Json.valueOr at failed
  split at failed
  · split at failed
    · next value found =>
        cases value <;> simp [Json.getString] at failed <;>
          exact failed.symm
    · cases failed
  · exact (Except.error.inj failed).symm

end Failures

section Reasons

variable {json : Json}

/-- The text of a message as a reason. -/
def messageReason (message : Bytes) : List Bytes :=
  [bytes "message", message, bytes "id"]

/-- A rejection with the id of a valid document can be written. -/
theorem validText_rejectionDocument
    {rejection : Rejection}
    (validId : rejection.id.ValidText)
    (validMessage : ValidUtf8 rejection.message)
    (validData : rejection.data.ValidText) :
    (rejectionDocument rejection).ValidText := by
  apply Json.validText_ofMembers
  intro member listed
  simp only [List.mem_cons, List.not_mem_nil, or_false] at listed
  rcases listed with rfl | rfl | rfl
  · exact ⟨validUtf8_bytes _, Json.validText_string.mpr (validUtf8_bytes _)⟩
  · exact ⟨validUtf8_bytes _, validId⟩
  · refine ⟨validUtf8_bytes _, Json.validText_ofMembers ?_⟩
    intro inner innerListed
    rcases List.mem_append.mp innerListed with fixed | data
    · simp only [List.mem_cons, List.not_mem_nil, or_false] at fixed
      rcases fixed with rfl | rfl
      · exact ⟨validUtf8_bytes _, Json.validText_numberInteger _⟩
      · exact ⟨validUtf8_bytes _, Json.validText_string.mpr validMessage⟩
    · split at data
      · cases data
      · obtain rfl := List.mem_singleton.mp data
        exact ⟨validUtf8_bytes _, validData⟩

theorem validText_echoedId
    (valid : json.ValidText) :
    (echoedId json).ValidText := by
  unfold echoedId
  cases found : json.find? (bytes "id") with
  | none =>
      exact Json.validText_null
  | some id =>
      exact valid.of_find? found

/-- What the host says of its own accord can be written. -/
theorem validText_told
    (valid : json.ValidText)
    (status : Nat)
    (code : Int64)
    (message : String) :
    (rejectionDocument
      ⟨status, echoedId json, code, bytes message, .null⟩).ValidText :=
  validText_rejectionDocument (validText_echoedId valid)
    (validUtf8_bytes message) Json.validText_null

/-- A rejection with a plain message is reported as it is. -/
theorem reason_rejected
    (valid : json.ValidText)
    (status : Nat)
    (code : Int64)
    (message : String) :
    (Halt.rejected
      ⟨status, echoedId json, code, bytes message, .null⟩).reported.reason =
      messageReason (bytes message) := by
  rw [Halt.reported, if_pos (validText_told valid status code message)]
  exact reason_of_message ..

theorem reason_malformed :
    (Halt.thrown .typeError).reported.reason =
      messageReason (bytes "Invalid JSON-RPC request") :=
  reason_of_message ..

/-- A version that is not valid UTF-8 cannot be written. -/
theorem not_validText_unsupportedVersion
    {version : Bytes}
    (invalid : ¬ ValidUtf8 version) :
    ¬ (rejectionDocument (unsupportedVersion json version)).ValidText := by
  intro written
  have shown :
      version ∈ Rejection.reason (unsupportedVersion json version) := by
    rw [unsupportedVersion, reason_of_version]
    simp
  exact invalid
    (written version (List.mem_of_mem_drop (List.mem_of_mem_take shown)))

/-- A version that is valid text can be repeated. -/
theorem validText_unsupportedVersion
    {version : Bytes}
    (valid : json.ValidText)
    (validVersion : ValidUtf8 version) :
    (rejectionDocument (unsupportedVersion json version)).ValidText := by
  refine validText_rejectionDocument (validText_echoedId valid)
    (validUtf8_bytes _) ?_
  apply Json.validText_ofMembers
  simp [validVersion, validUtf8_bytes, V2026_07_28.kProtocolVersion]

/-- A version is repeated unless it cannot be written. -/
theorem reason_unsupportedVersion
    (valid : json.ValidText)
    (version : Bytes) :
    (Halt.rejected (unsupportedVersion json version)).reported.reason =
      if ValidUtf8 version then
        [bytes "data", bytes "requested", version]
      else
        messageReason (bytes "Invalid JSON-RPC request") := by
  by_cases validVersion : ValidUtf8 version
  · have written := validText_unsupportedVersion valid validVersion
    rw [Halt.reported, if_pos written, if_pos validVersion]
    exact reason_of_version ..
  · have notWritten :=
      @not_validText_unsupportedVersion json _ validVersion
    rw [Halt.reported, if_neg notWritten, if_neg validVersion]
    exact reason_of_message ..

/-- How reading the parameters fails. -/
theorem readParams_eq_error
    {version : Bytes}
    {halt : Halt}
    (failed : readParams json version = .error halt) :
    halt = .thrown .typeError ∨
      halt = .rejected ⟨400, echoedId json, -32020,
        bytes "MCP protocol metadata does not match the request",
        .null⟩ ∨
      halt = .rejected ⟨400, echoedId json, -32602,
        bytes
          "MCP request metadata requires clientInfo and clientCapabilities",
        .null⟩ := by
  unfold readParams at failed
  simp only [bind_eq_error_iff, require_eq_error_iff,
    mayThrow_eq_error_iff] at failed
  obtain ⟨-, rfl⟩ | ⟨-, -, ⟨thrown, read, rfl⟩ |
    ⟨found, -, ⟨-, rfl⟩ | ⟨-, -, ⟨-, rfl⟩ | ⟨-, -, impossible⟩⟩⟩⟩ := failed
  · exact .inr (.inl rfl)
  · rw [valueOr_getString_eq_error read]
    exact .inl rfl
  · exact .inr (.inl rfl)
  · exact .inr (.inr rfl)
  · cases impossible

/-- What is reported of a verdict. -/
def reasonOf : Except Halt Unit → List Bytes
  | .error halt => halt.reported.reason
  | .ok _ => []

/-- The reasons that a supported version leaves open, or none. -/
def laterReasons : List (List Bytes) := [
  messageReason
    (bytes "MCP protocol metadata does not match the request"),
  messageReason (bytes
    "MCP request metadata requires clientInfo and clientCapabilities"),
  messageReason (bytes "Mcp-Method does not match the JSON-RPC method"),
  messageReason (bytes "Mcp-Name does not match the JSON-RPC request"),
  messageReason (bytes "Method not found"),
  []
]

/-- The reason of a verdict after the parameters were read. -/
theorem reason_verdict_of_params
    (valid : json.ValidText)
    {params : Json}
    (read :
      readParams json V2026_07_28.kProtocolVersion = .ok params)
    (method methodHeader nameHeader : Bytes) :
    reasonOf
        (verdict json method V2026_07_28.kProtocolVersion methodHeader
          nameHeader) =
      if methodHeader ≠ method then
        messageReason
          (bytes "Mcp-Method does not match the JSON-RPC method")
      else if V2026_07_28.requiresName method &&
          !nameRepeats params nameHeader then
        messageReason
          (bytes "Mcp-Name does not match the JSON-RPC request")
      else if V2026_07_28.supportsMethod method then
        []
      else
        messageReason (bytes "Method not found") := by
  rw [verdict_of_params read, paramsVerdict]
  split
  · exact reason_rejected valid ..
  · split
    · exact reason_rejected valid ..
    · split
      · rfl
      · exact reason_rejected valid ..

/-- How a version leads to a reason. -/
inductive VersionReason
    (json : Json)
    (version : Bytes)
    (reason : List Bytes) : Prop where
  | absent
      (isAbsent : version = [])
      (isReason :
        reason =
          messageReason (bytes "MCP-Protocol-Version is required"))
  | unsupported
      (present : version ≠ [])
      (other : version ≠ V2026_07_28.kProtocolVersion)
      (isReason : reason = [bytes "data", bytes "requested", version])
  | caught
      (isCaught :
        ¬ ValidUtf8 version ∨
          version = V2026_07_28.kProtocolVersion ∧
            readParams json V2026_07_28.kProtocolVersion =
              .error (.thrown .typeError))
      (isReason :
        reason = messageReason (bytes "Invalid JSON-RPC request"))
  | supported
      (isVersion : version = V2026_07_28.kProtocolVersion)
      (isReason : reason ∈ laterReasons)

/-- The reason of a verdict shows how the version was. -/
theorem versionReason_verdict
    (valid : json.ValidText)
    (method version methodHeader nameHeader : Bytes) :
    VersionReason json version
      (reasonOf
        (verdict json method version methodHeader nameHeader)) := by
  by_cases absent : version = []
  · subst version
    exact .absent rfl (reason_rejected valid ..)
  by_cases isVersion : version = V2026_07_28.kProtocolVersion
  · subst version
    cases read : readParams json V2026_07_28.kProtocolVersion with
    | error halt =>
        have failed :
            verdict json method V2026_07_28.kProtocolVersion methodHeader
                nameHeader =
              .error halt := by
          rw [verdict, if_neg absent, if_neg (by simp), read]
        rw [failed]
        rcases readParams_eq_error read with rfl | rfl | rfl
        · exact .caught (.inr ⟨rfl, read⟩) reason_malformed
        · refine .supported rfl ?_
          rw [reasonOf, reason_rejected valid]
          simp [laterReasons]
        · refine .supported rfl ?_
          rw [reasonOf, reason_rejected valid]
          simp [laterReasons]
    | ok params =>
        refine .supported rfl ?_
        rw [reason_verdict_of_params valid read]
        split
        · simp [laterReasons]
        · split
          · simp [laterReasons]
          · split <;> simp [laterReasons]
  · have unsupported :
        verdict json method version methodHeader nameHeader =
          .error (.rejected (unsupportedVersion json version)) := by
      rw [verdict, if_neg absent, if_pos isVersion]
    have reason := reason_unsupportedVersion valid version
    rw [unsupported, reasonOf, reason]
    by_cases validVersion : ValidUtf8 version
    · exact .unsupported absent isVersion (if_pos validVersion)
    · exact .caught (.inl validVersion) (if_neg validVersion)

/-- The reasons of the four kinds of versions differ. -/
theorem messageReason_ne_requested (message version : Bytes) :
    messageReason message ≠ [bytes "data", bytes "requested", version] := by
  intro same
  cases same

theorem requested_notMem_laterReasons (version : Bytes) :
    [bytes "data", bytes "requested", version] ∉ laterReasons := by
  intro later
  simp [laterReasons, messageReason] at later

theorem notMem_laterReasons :
    messageReason (bytes "MCP-Protocol-Version is required") ∉
        laterReasons ∧
      messageReason (bytes "Invalid JSON-RPC request") ∉ laterReasons := by
  decide +kernel

section Inversion

variable {version : Bytes}

/-- Only a missing version is reported as missing. -/
theorem VersionReason.eq_nil
    (reasoned :
      VersionReason json version
        (messageReason (bytes "MCP-Protocol-Version is required"))) :
    version = [] := by
  cases reasoned with
  | absent isAbsent =>
      exact isAbsent
  | unsupported _ _ other =>
      exact absurd other (messageReason_ne_requested _ _)
  | caught _ other =>
      exact absurd other (by decide)
  | supported _ later =>
      exact absurd later notMem_laterReasons.1

/-- A version that is repeated was requested. -/
theorem VersionReason.eq_requested
    {requested : Bytes}
    (reasoned :
      VersionReason json version
        [bytes "data", bytes "requested", requested]) :
    version = requested := by
  cases reasoned with
  | absent _ other =>
      exact absurd other.symm (messageReason_ne_requested _ _)
  | unsupported _ _ same =>
      simpa using same.symm
  | caught _ other =>
      exact absurd other.symm (messageReason_ne_requested _ _)
  | supported _ later =>
      exact absurd later (requested_notMem_laterReasons _)

/-- What is reported as malformed was caught. -/
theorem VersionReason.isCaught
    (reasoned :
      VersionReason json version
        (messageReason (bytes "Invalid JSON-RPC request"))) :
    ¬ ValidUtf8 version ∨
      version = V2026_07_28.kProtocolVersion ∧
        readParams json V2026_07_28.kProtocolVersion =
          .error (.thrown .typeError) := by
  cases reasoned with
  | absent _ other =>
      exact absurd other (by decide)
  | unsupported _ _ other =>
      exact absurd other (messageReason_ne_requested _ _)
  | caught isCaught =>
      exact isCaught
  | supported _ later =>
      exact absurd later notMem_laterReasons.2

/-- The other reasons come after the version was supported. -/
theorem VersionReason.eq_supported
    {reason : List Bytes}
    (reasoned : VersionReason json version reason)
    (isLater : reason ∈ laterReasons) :
    version = V2026_07_28.kProtocolVersion := by
  cases reasoned with
  | absent _ isReason =>
      rw [isReason] at isLater
      exact absurd isLater notMem_laterReasons.1
  | unsupported _ _ isReason =>
      rw [isReason] at isLater
      exact absurd isLater (requested_notMem_laterReasons _)
  | caught _ isReason =>
      rw [isReason] at isLater
      exact absurd isLater notMem_laterReasons.2
  | supported isVersion =>
      exact isVersion

end Inversion

end Reasons

section Conditions

variable (headers : List (Bytes × Bytes))

/-- All values fail a check, or all pass it and the rest holds. -/
def Decided
    (name : Bytes)
    (check : Bytes → Bool)
    (rest : Prop) : Prop :=
  (∀ value ∈ lookedUp headers name, check value = false) ∨
    (∀ value ∈ lookedUp headers name, check value = true) ∧ rest

/-- The method and the name are decided; the rest is for served requests. -/
def SameHeaders
    (params : Json)
    (method : Bytes)
    (rest : Prop) : Prop :=
  Decided headers (bytes "Mcp-Method") (· = method)
    (Decided headers (bytes "Mcp-Name")
      (fun name =>
        !V2026_07_28.requiresName method || nameRepeats params name)
      (V2026_07_28.supportsMethod method = true → rest))

/-- The versions are reported alike, or supported and the rest is decided. -/
inductive SameVersion
    (json : Json)
    (method : Bytes)
    (rest : Prop) : Prop where
  | absent
      (values :
        ∀ version ∈ lookedUp headers (bytes "MCP-Protocol-Version"),
          version = [])
  | unsupported
      (requested : Bytes)
      (present : requested ≠ [])
      (other : requested ≠ V2026_07_28.kProtocolVersion)
      (values :
        ∀ version ∈ lookedUp headers (bytes "MCP-Protocol-Version"),
          version = requested)
  /-- Either text cannot be reported, or the parameters cannot be read. -/
  | caught
      (values :
        ∀ version ∈ lookedUp headers (bytes "MCP-Protocol-Version"),
          ¬ ValidUtf8 version ∨
            version = V2026_07_28.kProtocolVersion ∧
              readParams json V2026_07_28.kProtocolVersion =
                .error (.thrown .typeError))
  | supported
      (values :
        ∀ version ∈ lookedUp headers (bytes "MCP-Protocol-Version"),
          version = V2026_07_28.kProtocolVersion)
      (decided :
        ∀ params,
          readParams json V2026_07_28.kProtocolVersion = .ok params →
          SameHeaders headers params method rest)

end Conditions

theorem and_not_eq (first second : Bool) :
    (first && !second) = !(!first || second) := by
  cases first <;> rfl

section Extraction

variable {headers : List (Bytes × Bytes)}

/-- Fields with one value are decided. -/
theorem Decided.of_same
    {name value : Bytes}
    {check : Bytes → Bool}
    {rest : Prop}
    (same : ∀ other ∈ lookedUp headers name, other = value)
    (decided : rest) :
    Decided headers name check rest := by
  cases checked : check value with
  | false =>
      left
      intro other listed
      rw [same other listed, checked]
  | true =>
      refine .inr ⟨?_, decided⟩
      intro other listed
      rw [same other listed, checked]

/-- A check that an answer tells about is decided if the answer is. -/
theorem decided_of_constant
    {Answer : Type}
    {answer : (Bytes → Bytes) → Answer}
    {initial : Bytes → Bytes}
    (possible : Possible headers initial)
    (constant :
      ∀ choice,
        Possible headers choice → answer choice = answer initial)
    {name : Bytes}
    {check : Bytes → Bool}
    {rest : Prop}
    (tells :
      ∀ first second,
        Possible headers first →
        Possible headers second →
        check (first name) = false →
        check (second name) = true →
        answer first ≠ answer second)
    (passing :
      (∀ value ∈ lookedUp headers name, check value = true) → rest) :
    Decided headers name check rest := by
  have agree :
      ∀ first second,
        Possible headers first →
        Possible headers second →
        check (first name) = check (second name) := by
    intro first second firstPossible secondPossible
    have same :=
      (constant first firstPossible).trans
        (constant second secondPossible).symm
    cases firstChecked : check (first name) with
    | false =>
        cases secondChecked : check (second name) with
        | false =>
            rfl
        | true =>
            exact absurd same
              (tells first second firstPossible secondPossible
                firstChecked secondChecked)
    | true =>
        cases secondChecked : check (second name) with
        | false =>
            exact absurd same.symm
              (tells second first secondPossible firstPossible
                secondChecked firstChecked)
        | true =>
            rfl
  have eachValue :
      ∀ value ∈ lookedUp headers name,
        check value = check (initial name) := by
    intro value listed
    have same :=
      agree _ initial (possible.update listed) possible
    simpa using same
  cases checked : check (initial name) with
  | false =>
      left
      intro value listed
      rw [eachValue value listed, checked]
  | true =>
      have pass :
          ∀ value ∈ lookedUp headers name, check value = true := by
        intro value listed
        rw [eachValue value listed, checked]
      exact .inr ⟨pass, passing pass⟩

/-- The verdict on the values of a choice. -/
def choiceVerdict
    (json : Json)
    (method : Bytes)
    (choice : Bytes → Bytes) : Except Halt Unit :=
  verdict json method
    (choice (bytes "MCP-Protocol-Version"))
    (choice (bytes "Mcp-Method"))
    (choice (bytes "Mcp-Name"))

section Verdict

variable {json params : Json}
variable {method : Bytes}
variable {initial : Bytes → Bytes}
variable {rest : Prop}

/-- One reason for all choices decides the method and the name. -/
theorem sameHeaders_of_constant
    (valid : json.ValidText)
    (possible : Possible headers initial)
    (constant :
      ∀ choice,
        Possible headers choice →
        reasonOf (choiceVerdict json method choice) =
          reasonOf (choiceVerdict json method initial))
    (versions :
      ∀ version ∈ lookedUp headers (bytes "MCP-Protocol-Version"),
        version = V2026_07_28.kProtocolVersion)
    (read : readParams json V2026_07_28.kProtocolVersion = .ok params)
    (served :
      (∀ choice,
        Possible headers choice →
        choiceVerdict json method choice = .ok ()) →
      rest) :
    SameHeaders headers params method rest := by
  have reason :
      ∀ choice,
        Possible headers choice →
        reasonOf (choiceVerdict json method choice) =
          if choice (bytes "Mcp-Method") ≠ method then
            messageReason
              (bytes "Mcp-Method does not match the JSON-RPC method")
          else if V2026_07_28.requiresName method &&
              !nameRepeats params (choice (bytes "Mcp-Name")) then
            messageReason
              (bytes "Mcp-Name does not match the JSON-RPC request")
          else if V2026_07_28.supportsMethod method then
            []
          else
            messageReason (bytes "Method not found") := by
    intro choice chosen
    have version :=
      versions _ (chosen (bytes "MCP-Protocol-Version") (by decide))
    rw [choiceVerdict, version]
    exact reason_verdict_of_params valid read ..
  refine decided_of_constant possible constant ?_ ?_
  · intro first second firstPossible secondPossible fails passes
    rw [reason first firstPossible, reason second secondPossible,
      if_pos (by simpa using fails), if_neg (by simpa using passes)]
    split
    · decide
    · split <;> decide
  · intro methods
    have sameMethod :
        ∀ choice,
          Possible headers choice →
          choice (bytes "Mcp-Method") = method := by
      intro choice chosen
      simpa using
        methods _ (chosen (bytes "Mcp-Method") (by decide))
    refine decided_of_constant possible constant ?_ ?_
    · intro first second firstPossible secondPossible fails passes
      rw [reason first firstPossible,
        if_neg (by simpa using sameMethod first firstPossible),
        if_pos (by rw [and_not_eq, fails]; rfl),
        reason second secondPossible,
        if_neg (by simpa using sameMethod second secondPossible),
        if_neg (by rw [and_not_eq, passes]; decide)]
      split <;> decide
    · intro names supported
      apply served
      intro choice chosen
      have version :=
        versions _ (chosen (bytes "MCP-Protocol-Version") (by decide))
      have named := names _ (chosen (bytes "Mcp-Name") (by decide))
      rw [choiceVerdict, version, verdict_of_params read, paramsVerdict,
        if_neg (by simpa using sameMethod choice chosen),
        if_neg (by rw [and_not_eq, named]; decide), if_pos supported]

/-- One reason for all choices decides the version and what follows. -/
theorem sameVersion_of_constant
    (valid : json.ValidText)
    (possible : Possible headers initial)
    (constant :
      ∀ choice,
        Possible headers choice →
        reasonOf (choiceVerdict json method choice) =
          reasonOf (choiceVerdict json method initial))
    (served :
      (∀ choice,
        Possible headers choice →
        choiceVerdict json method choice = .ok ()) →
      rest) :
    SameVersion headers json method rest := by
  have reasons :
      ∀ version ∈ lookedUp headers (bytes "MCP-Protocol-Version"),
        VersionReason json version
          (reasonOf (choiceVerdict json method initial)) := by
    intro version listed
    have same := constant _ (possible.update listed)
    rw [choiceVerdict, Function.update_self] at same
    rw [← same]
    exact versionReason_verdict valid ..
  cases reasons _ (possible (bytes "MCP-Protocol-Version") (by decide))
    with
  | absent _ isReason =>
      rw [isReason] at reasons
      exact .absent fun version listed => (reasons version listed).eq_nil
  | unsupported present other isReason =>
      rw [isReason] at reasons
      exact .unsupported _ present other fun version listed =>
        (reasons version listed).eq_requested
  | caught _ isReason =>
      rw [isReason] at reasons
      exact .caught fun version listed =>
        (reasons version listed).isCaught
  | supported _ isLater =>
      have versions :
          ∀ version ∈ lookedUp headers (bytes "MCP-Protocol-Version"),
            version = V2026_07_28.kProtocolVersion :=
        fun version listed =>
          (reasons version listed).eq_supported isLater
      apply SameVersion.supported versions
      intro params read
      exact sameHeaders_of_constant valid possible constant versions read
        served

end Verdict

end Extraction

section Sufficiency

variable {headers : List (Bytes × Bytes)}
variable {json : Json}
variable {method : Bytes}
variable {rest : Prop}

/-- A rejection that is not a success is not reported as one. -/
theorem status_reported
    {halt : Halt}
    (refuses :
      ∀ rejection, halt = .rejected rejection → rejection.status ≠ 200) :
    halt.reported.status ≠ 200 := by
  cases halt with
  | thrown thrown =>
      cases thrown <;> decide
  | rejected rejection =>
      by_cases valid : (rejectionDocument rejection).ValidText
      · rw [Halt.reported, if_pos valid]
        exact refuses rejection rfl
      · rw [Halt.reported, if_neg valid]
        decide

/-- All choices stop with one report, or all are served. -/
inductive OneVerdict
    (headers : List (Bytes × Bytes))
    (json : Json)
    (method : Bytes)
    (rest : Prop) : Prop where
  | stops
      (reported : Rejection)
      (failure : reported.status ≠ 200)
      (halts :
        ∀ choice,
          Possible headers choice →
          ∃ halt,
            choiceVerdict json method choice = .error halt ∧
              halt.reported = reported)
  | serves
      (passes :
        ∀ choice,
          Possible headers choice →
          choiceVerdict json method choice = .ok ())
      (decided : rest)

/-- One rejection for all choices is one report. -/
theorem OneVerdict.of_rejection
    {rejection : Rejection}
    (failure : rejection.status ≠ 200)
    (halts :
      ∀ choice,
        Possible headers choice →
        choiceVerdict json method choice =
          .error (.rejected rejection)) :
    OneVerdict headers json method rest := by
  refine .stops (Halt.rejected rejection).reported (status_reported ?_)
    fun choice chosen => ⟨_, halts choice chosen, rfl⟩
  intro other same
  obtain rfl := Halt.rejected.inj same
  exact failure

theorem oneVerdict_of_sameHeaders
    {params : Json}
    (versions :
      ∀ version ∈ lookedUp headers (bytes "MCP-Protocol-Version"),
        version = V2026_07_28.kProtocolVersion)
    (read : readParams json V2026_07_28.kProtocolVersion = .ok params)
    (same : SameHeaders headers params method rest) :
    OneVerdict headers json method rest := by
  have verdictOf :
      ∀ choice,
        Possible headers choice →
        choiceVerdict json method choice =
          paramsVerdict json params method
            (choice (bytes "Mcp-Method"))
            (choice (bytes "Mcp-Name")) := by
    intro choice chosen
    rw [choiceVerdict,
      versions _ (chosen (bytes "MCP-Protocol-Version") (by decide)),
      verdict_of_params read]
  rcases same with methods | ⟨methods, names | ⟨names, decided⟩⟩
  · apply OneVerdict.of_rejection
    · show (methodMismatch json).status ≠ 200
      simp [methodMismatch]
    · intro choice chosen
      have differs := methods _ (chosen (bytes "Mcp-Method") (by decide))
      rw [verdictOf choice chosen, paramsVerdict,
        if_pos (by simpa using differs)]
  · apply OneVerdict.of_rejection
    · show (nameMismatch json).status ≠ 200
      simp [nameMismatch]
    · intro choice chosen
      have isMethod := methods _ (chosen (bytes "Mcp-Method") (by decide))
      have differs := names _ (chosen (bytes "Mcp-Name") (by decide))
      simp only at differs
      rw [verdictOf choice chosen, paramsVerdict,
        if_neg (by simpa using isMethod),
        if_pos (by rw [and_not_eq, differs]; rfl)]
  · have verdicts :
        ∀ choice,
          Possible headers choice →
          choiceVerdict json method choice =
            if V2026_07_28.supportsMethod method then
              .ok ()
            else
              .error (.rejected (methodNotFound json)) := by
      intro choice chosen
      have isMethod := methods _ (chosen (bytes "Mcp-Method") (by decide))
      have named := names _ (chosen (bytes "Mcp-Name") (by decide))
      simp only at named
      rw [verdictOf choice chosen, paramsVerdict,
        if_neg (by simpa using isMethod),
        if_neg (by rw [and_not_eq, named]; decide)]
    by_cases supported : V2026_07_28.supportsMethod method = true
    · apply OneVerdict.serves
      · intro choice chosen
        rw [verdicts choice chosen, if_pos supported]
      · exact decided supported
    · apply OneVerdict.of_rejection
      · show (methodNotFound json).status ≠ 200
        simp [methodNotFound]
      · intro choice chosen
        rw [verdicts choice chosen, if_neg supported]

theorem oneVerdict_of_sameVersion
    (same : SameVersion headers json method rest) :
    OneVerdict headers json method rest := by
  have listed :
      ∀ choice,
        Possible headers choice →
        choice (bytes "MCP-Protocol-Version") ∈
          lookedUp headers (bytes "MCP-Protocol-Version") :=
    fun choice chosen => chosen _ (by decide)
  cases same with
  | absent values =>
      apply OneVerdict.of_rejection
      · show (versionRequired json).status ≠ 200
        simp [versionRequired]
      · intro choice chosen
        rw [choiceVerdict, values _ (listed choice chosen)]
        rfl
  | unsupported requested present other values =>
      apply OneVerdict.of_rejection
      · show (unsupportedVersion json requested).status ≠ 200
        simp [unsupportedVersion]
      · intro choice chosen
        rw [choiceVerdict, values _ (listed choice chosen), verdict,
          if_neg present, if_pos other]
  | caught values =>
      apply OneVerdict.stops malformed (by decide)
      intro choice chosen
      rcases values _ (listed choice chosen) with
        invalid | ⟨isVersion, thrown⟩
      · have present : choice (bytes "MCP-Protocol-Version") ≠ [] := by
          intro absent
          rw [absent] at invalid
          exact invalid validUtf8_nil
        have other :
            choice (bytes "MCP-Protocol-Version") ≠
              V2026_07_28.kProtocolVersion := by
          intro isVersion
          rw [isVersion] at invalid
          exact invalid (validUtf8_bytes _)
        refine ⟨.rejected (unsupportedVersion json _), ?_,
          if_neg (not_validText_unsupportedVersion invalid)⟩
        rw [choiceVerdict, verdict, if_neg present, if_pos other]
      · refine ⟨.thrown .typeError, ?_, rfl⟩
        rw [choiceVerdict, isVersion, verdict, if_neg (by decide),
          if_neg (by simp), thrown]
  | supported values decided =>
      cases read : readParams json V2026_07_28.kProtocolVersion with
      | error halt =>
          refine .stops halt.reported (status_reported ?_) ?_
          · intro rejection isRejected
            subst halt
            rcases readParams_eq_error read with impossible | shape | shape
            · cases impossible
            · obtain rfl := Halt.rejected.inj shape
              simp
            · obtain rfl := Halt.rejected.inj shape
              simp
          · intro choice chosen
            refine ⟨halt, ?_, rfl⟩
            rw [choiceVerdict, values _ (listed choice chosen), verdict,
              if_neg (by decide), if_neg (by simp), read]
      | ok params =>
          exact oneVerdict_of_sameHeaders values read
            (decided params read)

end Sufficiency

end TgGate
