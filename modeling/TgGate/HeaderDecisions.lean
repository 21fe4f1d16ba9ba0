import TgGate.HeaderAnswers

namespace TgGate

open Library

/-!
# What a dependence on the order shows

If all orders of the headers give one answer, every check that is reached is
decided: a check that some field fails and some other passes would give two
different answers.  A handler that records the profiles it is called for shows
what reaches it.
-/

/-- A handler that records the profiles it is called for. -/
def recordProfile : Invoke (List McpClientProfile) :=
  fun profile _ calls => (.ok .null, calls ++ [profile])

variable {service : LocalMcpHttpService}
variable {library : JsonLibrary}
variable {request : HttpRequest}

/-- The header that allows an origin. -/
def allowOrigin (origin : Bytes) : List (Bytes × Bytes) :=
  if origin.isEmpty then
    []
  else
    [(bytes "Access-Control-Allow-Origin", origin)]

theorem served_recordProfile
    (profile : McpClientProfile)
    (json : Json)
    (origin : Bytes) :
    served library recordProfile profile json origin [] =
      (.ok { status := 200, headers := allowOrigin origin },
        [profile]) :=
  rfl

/-- The `try` block never answers by a bare status. -/
theorem tryBlock_ne_refusal
    (checks : ChecksUtf8 library)
    (profile : McpClientProfile)
    (choice : Bytes → Bytes)
    (status : Nat) :
    (.ok { status := status }, []) ≠
      tryBlock library recordProfile profile request choice [] := by
  have notHalt :
      ∀ halt,
        ((.ok { status := status }, []) :
          Except Exception HttpResponse × List McpClientProfile) ≠
          (haltOutcome library halt, []) := by
    intro halt same
    obtain ⟨text, -, answered⟩ := haltOutcome_eq checks halt
    rw [answered] at same
    cases same
  unfold tryBlock
  split
  · exact notHalt _
  · split
    · exact notHalt _
    · split
      · exact notHalt _
      · rw [served_recordProfile]
        intro same
        have calls := congrArg Prod.snd same
        cases calls

/-- Equal answers of the `try` block have one reason. -/
theorem reason_of_tryBlock_eq
    (checks : ChecksUtf8 library)
    (shows : ShowsStrings library)
    {json : Json}
    {method : Bytes}
    (parsed : library.parse request.body = .ok json)
    (read : readMethod json = .ok method)
    {profile other : McpClientProfile}
    {first second : Bytes → Bytes}
    (same :
      tryBlock library recordProfile profile request first [] =
        tryBlock library recordProfile other request second []) :
    reasonOf (choiceVerdict json method first) =
      reasonOf (choiceVerdict json method second) := by
  simp only [tryBlock, parsed, read] at same
  cases firstVerdict : choiceVerdict json method first with
  | error halt =>
      cases secondVerdict : choiceVerdict json method second with
      | error otherHalt =>
          simp only [firstVerdict, secondVerdict, Prod.mk.injEq,
            and_true] at same
          exact reason_eq_of_haltOutcome_eq checks shows same
      | ok passed =>
          simp [firstVerdict, secondVerdict, served_recordProfile] at same
  | ok passed =>
      cases secondVerdict : choiceVerdict json method second with
      | error halt =>
          simp [firstVerdict, secondVerdict, served_recordProfile] at same
      | ok otherPassed =>
          rfl

/-- An origin is shown by the header that allows it. -/
theorem allowOrigin_inj
    {first second : Bytes}
    (same : allowOrigin first = allowOrigin second) :
    first = second := by
  unfold allowOrigin at same
  cases first <;> cases second <;> simp_all

section Constant

variable {initial : Bytes → Bytes}

/-- The recorded answer to a choice. -/
def recordedAnswer
    (service : LocalMcpHttpService)
    (library : JsonLibrary)
    (request : HttpRequest)
    (choice : Bytes → Bytes) :
    Except Exception HttpResponse × List McpClientProfile :=
  service.handle library recordProfile (request.withFields choice) []

/-- One answer in all orders is one call. -/
theorem sameCall_of_constant
    (possible : Possible request.headers initial)
    (constant :
      ∀ choice,
        Possible request.headers choice →
        recordedAnswer service library request choice =
          recordedAnswer service library request initial)
    (refuses :
      HasForeignOrigin service request →
      ∀ response later,
        recordedAnswer service library request initial =
          (.ok response, later) →
        response.status ≠ 200)
    (authenticated :
      ∀ authorization ∈
        lookedUp request.headers (bytes "Authorization"),
        (service.clientFor authorization).isSome = true)
    (answered :
      ∀ choice client,
        Possible request.headers choice →
        service.clientFor (choice (bytes "Authorization")) =
          some client →
        recordedAnswer service library request choice =
          (.ok {
              status := 200
              headers := allowOrigin (choice (bytes "Origin")) },
            [client.profile])) :
    SameCall service request := by
  have oneAnswer :
      ∀ choice client,
        Possible request.headers choice →
        service.clientFor (choice (bytes "Authorization")) =
          some client →
        recordedAnswer service library request initial =
          (.ok {
              status := 200
              headers := allowOrigin (choice (bytes "Origin")) },
            [client.profile]) := by
    intro choice client chosen named
    rw [← constant choice chosen]
    exact answered choice client chosen named
  obtain ⟨initialClient, initialNamed⟩ :=
    Option.isSome_iff_exists.mp
      (authenticated _ (possible (bytes "Authorization") (by decide)))
  constructor
  · intro first firstListed second secondListed
    obtain ⟨client, named⟩ :=
      Option.isSome_iff_exists.mp (authenticated first firstListed)
    obtain ⟨other, otherNamed⟩ :=
      Option.isSome_iff_exists.mp (authenticated second secondListed)
    have firstAnswer :=
      oneAnswer _ client (possible.update firstListed)
        (by simpa using named)
    have secondAnswer :=
      oneAnswer _ other (possible.update secondListed)
        (by simpa using otherNamed)
    have sameCalls :=
      congrArg Prod.snd (firstAnswer.symm.trans secondAnswer)
    rw [named, otherNamed]
    simpa using sameCalls
  · intro first firstListed second secondListed
    have notAuthorization :
        bytes "Authorization" ≠ bytes "Origin" := by
      decide
    have firstAnswer :=
      oneAnswer _ initialClient (possible.update firstListed)
        (by simpa [notAuthorization] using initialNamed)
    have secondAnswer :=
      oneAnswer _ initialClient (possible.update secondListed)
        (by simpa [notAuthorization] using initialNamed)
    have sameAnswers := firstAnswer.symm.trans secondAnswer
    simp only [Function.update_self, Prod.mk.injEq, Except.ok.injEq,
      HttpResponse.mk.injEq, true_and, and_true] at sameAnswers
    exact allowOrigin_inj sameAnswers
  · intro origin listed
    by_contra foreign
    obtain ⟨field, member, isOrigin, rfl⟩ := mem_fieldValues_iff.mp listed
    exact refuses ⟨field, member, isOrigin, foreign⟩ _ _
      (oneAnswer initial initialClient possible initialNamed) rfl

/-- A known client is not told that the request is refused earlier. -/
theorem clientAnswer_ne_refusal
    (checks : ChecksUtf8 library)
    {profile : McpClientProfile}
    {choice : Bytes → Bytes}
    {status : Nat}
    (notTyped : status ≠ 415)
    (notAccepted : status ≠ 406) :
    (.ok { status := status }, []) ≠
      clientAnswer library recordProfile profile request choice [] := by
  unfold clientAnswer
  split
  · simpa using notTyped
  · split
    · simpa using notAccepted
    · exact tryBlock_ne_refusal checks _ _ _

/-- A typed request is not told that its content type is refused. -/
theorem contentType_ne
    (checks : ChecksUtf8 library)
    {profile : McpClientProfile}
    {choice : Bytes → Bytes}
    (typed : contentTypeIsJson (choice (bytes "Content-Type")) = true) :
    (.ok { status := 415 }, []) ≠
      clientAnswer library recordProfile profile request choice [] := by
  cases accepts : acceptsBoth (choice (bytes "Accept")) with
  | false =>
      rw [clientAnswer_of_accept typed accepts]
      simp
  | true =>
      rw [clientAnswer_eq_tryBlock typed accepts]
      exact tryBlock_ne_refusal checks _ _ _

section Posted

variable {first second : Bytes → Bytes}

/-- A known and an unknown client are answered differently. -/
theorem unknown_ne
    (checks : ChecksUtf8 library)
    (atPath : request.path = kMcpPath)
    (isPost : request.method = bytes "POST")
    (firstPasses :
      service.passesOrigin (first (bytes "Origin")) = true)
    (unknown :
      (service.clientFor (first (bytes "Authorization"))).isSome = false)
    (secondPasses :
      service.passesOrigin (second (bytes "Origin")) = true)
    (known :
      (service.clientFor (second (bytes "Authorization"))).isSome =
        true) :
    recordedAnswer service library request first ≠
      recordedAnswer service library request second := by
  obtain ⟨client, -, answered⟩ :=
    @handle_of_known _ service library request recordProfile second []
      atPath isPost secondPasses known
  unfold recordedAnswer
  rw [handle_of_unknown atPath isPost firstPasses unknown, answered]
  exact clientAnswer_ne_refusal checks (by decide) (by decide)

/-- A foreign origin and an allowed one are answered differently. -/
theorem foreign_ne
    (checks : ChecksUtf8 library)
    (atPath : request.path = kMcpPath)
    (isPost : request.method = bytes "POST")
    (foreign : service.passesOrigin (first (bytes "Origin")) = false)
    (passes : service.passesOrigin (second (bytes "Origin")) = true) :
    recordedAnswer service library request first ≠
      recordedAnswer service library request second := by
  unfold recordedAnswer
  rw [handle_of_foreign atPath isPost foreign]
  cases known :
      (service.clientFor (second (bytes "Authorization"))).isSome with
  | false =>
      rw [handle_of_unknown atPath isPost passes known]
      simp
  | true =>
      obtain ⟨client, -, answered⟩ :=
        @handle_of_known _ service library request recordProfile second
          [] atPath isPost passes known
      rw [answered]
      exact clientAnswer_ne_refusal checks (by decide) (by decide)

end Posted

/-- If the `try` block answers all choices alike, the version is decided. -/
theorem sameVersion_of_tried
    (checks : ChecksUtf8 library)
    (shows : ShowsStrings library)
    (possible : Possible request.headers initial)
    (constant :
      ∀ choice,
        Possible request.headers choice →
        recordedAnswer service library request choice =
          recordedAnswer service library request initial)
    (refuses :
      HasForeignOrigin service request →
      ∀ response later,
        recordedAnswer service library request initial =
          (.ok response, later) →
        response.status ≠ 200)
    (authenticated :
      ∀ authorization ∈
        lookedUp request.headers (bytes "Authorization"),
        (service.clientFor authorization).isSome = true)
    (tried :
      ∀ choice,
        Possible request.headers choice →
        ∃ client,
          service.clientFor (choice (bytes "Authorization")) =
              some client ∧
            recordedAnswer service library request choice =
              tryBlock library recordProfile client.profile request
                choice [])
    {json : Json}
    {method : Bytes}
    (parsed : library.parse request.body = .ok json)
    (read : readMethod json = .ok method) :
    SameVersion request.headers json method
      (SameCall service request) := by
  refine sameVersion_of_constant (checks.parses parsed) possible ?_ ?_
  · intro choice chosen
    obtain ⟨client, -, answer⟩ := tried choice chosen
    obtain ⟨other, -, initialAnswer⟩ := tried initial possible
    have same := constant choice chosen
    rw [answer, initialAnswer] at same
    exact reason_of_tryBlock_eq checks shows parsed read same
  · intro passed
    refine sameCall_of_constant possible constant refuses authenticated ?_
    intro choice client chosen named
    obtain ⟨other, otherNamed, answer⟩ := tried choice chosen
    rw [named, Option.some.injEq] at otherNamed
    subst otherNamed
    rw [answer]
    simp only [tryBlock, parsed, read, passed choice chosen,
      served_recordProfile]

/-- One answer in all orders leaves nothing to the order. -/
theorem decidedPost_of_constant
    (checks : ChecksUtf8 library)
    (shows : ShowsStrings library)
    (atPath : request.path = kMcpPath)
    (isPost : request.method = bytes "POST")
    (possible : Possible request.headers initial)
    (constant :
      ∀ choice,
        Possible request.headers choice →
        recordedAnswer service library request choice =
          recordedAnswer service library request initial)
    (refuses :
      HasForeignOrigin service request →
      ∀ response later,
        recordedAnswer service library request initial =
          (.ok response, later) →
        response.status ≠ 200) :
    DecidedPost service request library := by
  refine decided_of_constant possible constant ?_ fun origins => ?_
  · intro first second firstPossible secondPossible fails passes
    exact foreign_ne checks atPath isPost fails passes
  have passes :
      ∀ choice,
        Possible request.headers choice →
        service.passesOrigin (choice (bytes "Origin")) = true :=
    fun choice chosen => origins _ (chosen (bytes "Origin") (by decide))
  refine decided_of_constant possible constant ?_ fun clients => ?_
  · intro first second firstPossible secondPossible unknown known
    exact unknown_ne checks atPath isPost (passes first firstPossible)
      unknown (passes second secondPossible) known
  have answered :
      ∀ choice,
        Possible request.headers choice →
        ∃ client,
          service.clientFor (choice (bytes "Authorization")) =
              some client ∧
            recordedAnswer service library request choice =
              clientAnswer library recordProfile client.profile request
                choice [] :=
    fun choice chosen =>
      handle_of_known atPath isPost (passes choice chosen)
        (clients _ (chosen (bytes "Authorization") (by decide)))
  refine decided_of_constant possible constant ?_ fun contentTypes => ?_
  · intro first second firstPossible secondPossible refused typed
    obtain ⟨client, -, firstAnswer⟩ := answered first firstPossible
    obtain ⟨other, -, secondAnswer⟩ := answered second secondPossible
    rw [firstAnswer, secondAnswer, clientAnswer_of_contentType refused]
    exact contentType_ne checks typed
  have typed :
      ∀ choice,
        Possible request.headers choice →
        contentTypeIsJson (choice (bytes "Content-Type")) = true :=
    fun choice chosen =>
      contentTypes _ (chosen (bytes "Content-Type") (by decide))
  refine decided_of_constant possible constant ?_ fun acceptable => ?_
  · intro first second firstPossible secondPossible refused accepts
    obtain ⟨client, -, firstAnswer⟩ := answered first firstPossible
    obtain ⟨other, -, secondAnswer⟩ := answered second secondPossible
    rw [firstAnswer, secondAnswer,
      clientAnswer_of_accept (typed first firstPossible) refused,
      clientAnswer_eq_tryBlock (typed second secondPossible) accepts]
    exact tryBlock_ne_refusal checks _ _ _
  have tried :
      ∀ choice,
        Possible request.headers choice →
        ∃ client,
          service.clientFor (choice (bytes "Authorization")) =
              some client ∧
            recordedAnswer service library request choice =
              tryBlock library recordProfile client.profile request
                choice [] := by
    intro choice chosen
    obtain ⟨client, named, answer⟩ := answered choice chosen
    rw [clientAnswer_eq_tryBlock (typed choice chosen)
      (acceptable _ (chosen (bytes "Accept") (by decide)))] at answer
    exact ⟨client, named, answer⟩
  intro json method parsed read
  exact sameVersion_of_tried checks shows possible constant refuses clients
    tried parsed read

/-- One preflight answer in all orders decides the origin. -/
theorem decidedPreflight_of_constant
    (atPath : request.path = kMcpPath)
    (isOptions : request.method = bytes "OPTIONS")
    (possible : Possible request.headers initial)
    (constant :
      ∀ choice,
        Possible request.headers choice →
        recordedAnswer service library request choice =
          recordedAnswer service library request initial) :
    Decided request.headers (bytes "Origin")
      (fun origin =>
        !origin.isEmpty && decide (origin ∈ service.allowedOrigins))
      (∀ first ∈ lookedUp request.headers (bytes "Origin"),
        ∀ second ∈ lookedUp request.headers (bytes "Origin"),
          first = second) := by
  have answer :
      ∀ choice,
        recordedAnswer service library request choice =
          (.ok (service.preflight (choice (bytes "Origin"))), []) :=
    fun choice =>
      handle_withFields_options atPath isOptions recordProfile choice []
  refine decided_of_constant possible constant ?_ ?_
  · intro first second firstPossible secondPossible fails passes same
    rw [answer, answer, preflight_of_fails fails] at same
    obtain ⟨success, -⟩ := preflight_of_passes passes
    have sameResponse := Except.ok.inj (congrArg Prod.fst same)
    rw [← sameResponse] at success
    exact absurd success (by decide)
  · intro allowed first firstListed second secondListed
    have firstAnswer := constant _ (possible.update firstListed)
    have secondAnswer := constant _ (possible.update secondListed)
    rw [answer, Function.update_self] at firstAnswer secondAnswer
    have sameResponse :=
      Except.ok.inj
        (congrArg Prod.fst (firstAnswer.trans secondAnswer.symm))
    obtain ⟨-, firstHeader⟩ :=
      preflight_of_passes (allowed first firstListed)
    obtain ⟨-, secondHeader⟩ :=
      preflight_of_passes (allowed second secondListed)
    rw [sameResponse, secondHeader] at firstHeader
    simpa using firstHeader.symm

end Constant

end TgGate
