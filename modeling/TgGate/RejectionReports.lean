import TgGate.HttpGate
import TgGate.Library.Hex
import TgGate.Library.JsonText

namespace TgGate

open Library

/-!
# What a client learns from a rejection

The `try` block of the host answers a request that is not valid by a JSON-RPC
error.  If the error cannot be written, because the requested protocol version
is not valid UTF-8, the handler of the block reports a malformed request
instead.  Different reasons are told apart by the texts in the response.
-/

/-- The document of a rejected request. -/
def rejectionDocument (rejection : Rejection) : Json :=
  .ofMembers
    [(bytes "jsonrpc", .string (bytes "2.0")),
      (bytes "id", rejection.id),
      (bytes "error", .ofMembers
        ([(bytes "code", .numberInteger rejection.code),
          (bytes "message", .string rejection.message)] ++
          if rejection.data.isNull then
            []
          else
            [(bytes "data", rejection.data)]))]

/-- What the `try` block reports for most exceptions. -/
def malformed : Rejection where
  status := 400
  id := .null
  code := -32600
  message := bytes "Invalid JSON-RPC request"

/-- What it reports for a body that is not JSON. -/
def unparsable : Rejection where
  status := 400
  id := .null
  code := -32700
  message := bytes "Parse error"

/-- The rejection that the client is told about. -/
def Halt.reported : Halt → Rejection
  | .thrown .parseError => unparsable
  | .thrown _ => malformed
  | .rejected rejection =>
      if (rejectionDocument rejection).ValidText then
        rejection
      else
        malformed

/-- The texts that tell one reason from another. -/
def Rejection.reason (rejection : Rejection) : List Bytes :=
  ((rejectionDocument rejection).strings.drop 2).take 3

theorem reason_of_message
    (status : Nat)
    (id : Json)
    (code : Int64)
    (message : Bytes) :
    Rejection.reason ⟨status, id, code, message, .null⟩ =
      [bytes "message", message, bytes "id"] := by
  have shape :
      rejectionDocument ⟨status, id, code, message, .null⟩ =
        .object [
          (bytes "error", .object [
            (bytes "code", .numberInteger code),
            (bytes "message", .string message)]),
          (bytes "id", id),
          (bytes "jsonrpc", .string (bytes "2.0"))] :=
    rfl
  rw [Rejection.reason, shape]
  simp [Json.strings, Json.memberStrings]

/-- A reported version is part of the reason. -/
theorem reason_of_version
    (status : Nat)
    (id : Json)
    (code : Int64)
    (message supported requested : Bytes) :
    Rejection.reason ⟨status, id, code, message,
        .ofMembers
          [(bytes "supported", .array [.string supported]),
            (bytes "requested", .string requested)]⟩ =
      [bytes "data", bytes "requested", requested] := by
  have shape :
      rejectionDocument ⟨status, id, code, message,
          .ofMembers
            [(bytes "supported", .array [.string supported]),
              (bytes "requested", .string requested)]⟩ =
        .object [
          (bytes "error", .object [
            (bytes "code", .numberInteger code),
            (bytes "data", .object [
              (bytes "requested", .string requested),
              (bytes "supported", .array [.string supported])]),
            (bytes "message", .string message)]),
          (bytes "id", id),
          (bytes "jsonrpc", .string (bytes "2.0"))] :=
    rfl
  rw [Rejection.reason, shape]
  simp [Json.strings, Json.memberStrings]

section Responses

variable {library : JsonLibrary}

/-- The answer to a request whose checks stop. -/
def haltOutcome
    (library : JsonLibrary) : Halt → Except Exception HttpResponse
  | .thrown thrown =>
      LocalMcpHttpService.catchJson library (.error (.json thrown))
  | .rejected rejection =>
      LocalMcpHttpService.catchJson library
        ((rejectionResponse library rejection).mapError Exception.json)

/-- A rejection that can be written is answered by its document. -/
theorem rejectionResponse_of_valid
    (checks : ChecksUtf8 library)
    {rejection : Rejection}
    (valid : (rejectionDocument rejection).ValidText) :
    ∃ text,
      library.dump (rejectionDocument rejection) = .ok text ∧
        rejectionResponse library rejection =
          .ok {
            status := rejection.status
            headers :=
              [(bytes "Content-Type", bytes "application/json")]
            body := text } := by
  obtain ⟨text, dumped, -⟩ := checks.serializes _ valid
  refine ⟨text, dumped, ?_⟩
  change response library rejection.status (rejectionDocument rejection) =
    _
  have notNull : (rejectionDocument rejection).isNull = false := rfl
  simp [response, notNull, dumped]

theorem validText_malformed : (rejectionDocument malformed).ValidText := by
  decide +kernel

theorem validText_unparsable :
    (rejectionDocument unparsable).ValidText := by
  decide +kernel

/-- What is reported can be written. -/
theorem validText_reported (halt : Halt) :
    (rejectionDocument halt.reported).ValidText := by
  unfold Halt.reported
  split
  · exact validText_unparsable
  · exact validText_malformed
  · split
    · assumption
    · exact validText_malformed

/-- The answer is that to the rejection that is reported. -/
theorem haltOutcome_eq
    (checks : ChecksUtf8 library)
    (halt : Halt) :
    ∃ text,
      library.dump (rejectionDocument halt.reported) = .ok text ∧
        haltOutcome library halt =
          .ok {
            status := halt.reported.status
            headers :=
              [(bytes "Content-Type", bytes "application/json")]
            body := text } := by
  obtain ⟨text, dumped, answered⟩ :=
    rejectionResponse_of_valid checks (validText_reported halt)
  refine ⟨text, dumped, ?_⟩
  cases halt with
  | thrown thrown =>
      cases thrown with
      | parseError =>
          exact congrArg (·.mapError Exception.json) answered
      | invalidIterator | typeError | outOfRange | otherError =>
          exact congrArg (·.mapError Exception.json) answered
  | rejected rejection =>
      by_cases valid : (rejectionDocument rejection).ValidText
      · have isReported : (Halt.rejected rejection).reported = rejection :=
          if_pos valid
        rw [isReported] at answered ⊢
        simp [haltOutcome, answered, LocalMcpHttpService.catchJson,
          Except.mapError]
      · have isReported : (Halt.rejected rejection).reported = malformed :=
          if_neg valid
        rw [isReported] at answered ⊢
        have notWritten :
            rejectionResponse library rejection = .error .typeError := by
          change response library rejection.status
            (rejectionDocument rejection) = _
          have notNull : (rejectionDocument rejection).isNull = false := rfl
          simp [response, notNull, checks.rejects _ valid]
        rw [haltOutcome, notWritten]
        exact congrArg (·.mapError Exception.json) answered

/-- Equal answers have one reason. -/
theorem reason_eq_of_haltOutcome_eq
    (checks : ChecksUtf8 library)
    (shows : ShowsStrings library)
    {first second : Halt}
    (same : haltOutcome library first = haltOutcome library second) :
    first.reported.reason = second.reported.reason := by
  obtain ⟨text, dumped, answered⟩ := haltOutcome_eq checks first
  obtain ⟨otherText, otherDumped, otherAnswered⟩ :=
    haltOutcome_eq checks second
  rw [answered, otherAnswered, Except.ok.injEq, HttpResponse.mk.injEq]
    at same
  obtain ⟨-, -, rfl⟩ := same
  unfold Rejection.reason
  rw [shows.same dumped otherDumped]

/-- Answers to one reported rejection are equal. -/
theorem haltOutcome_congr
    (checks : ChecksUtf8 library)
    {first second : Halt}
    (same : first.reported = second.reported) :
    haltOutcome library first = haltOutcome library second := by
  obtain ⟨text, dumped, answered⟩ := haltOutcome_eq checks first
  obtain ⟨otherText, otherDumped, otherAnswered⟩ :=
    haltOutcome_eq checks second
  rw [same, otherDumped] at dumped
  obtain rfl := Except.ok.inj dumped
  rw [answered, otherAnswered, same]

end Responses

end TgGate
