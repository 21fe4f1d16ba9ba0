import TgGate.HeaderVerdicts

namespace TgGate

open Library

/-!
# Answers by the looked up values

The answer to a request is a cascade of checks of its lookups: the origin, the
client, the two media types, and in the `try` block the version, the method
and the name.  The lookups are a choice of one value for every name here, and
every stage of the cascade is a lemma.
-/

/-- Both media types of the transport are accepted. -/
def acceptsBoth (accept : Bytes) : Bool :=
  acceptsMediaType accept (bytes "application/json") &&
    acceptsMediaType accept (bytes "text/event-stream")

namespace LocalMcpHttpService

/-- An origin does not stop a request. -/
def passesOrigin (service : LocalMcpHttpService) (origin : Bytes) : Bool :=
  origin.isEmpty || origin ∈ service.allowedOrigins

/-- The client that an authorization names. -/
def clientFor
    (service : LocalMcpHttpService)
    (authorization : Bytes) : Option AuthenticatedClient :=
  service.authenticate (oneField (bytes "Authorization") authorization)

end LocalMcpHttpService


section Answers

variable {State : Type}
variable {service : LocalMcpHttpService}
variable {library : JsonLibrary}
variable {request : HttpRequest}

/-- The answer to a request that passed all checks. -/
def served
    (library : JsonLibrary)
    (invoke : Invoke State)
    (profile : McpClientProfile)
    (json : Json)
    (origin : Bytes)
    (state : State) : Except Exception HttpResponse × State :=
  match invoke profile json state with
  | (.error thrown, state) =>
      (LocalMcpHttpService.catchJson library (.error thrown), state)
  | (.ok body, state) =>
      let allowOrigin :=
        if origin.isEmpty then
          []
        else
          [(bytes "Access-Control-Allow-Origin", origin)]
      let result := do
        let result ← response library 200 body
        return { result with headers := result.headers ++ allowOrigin }
      (LocalMcpHttpService.catchJson library
        (result.mapError Exception.json), state)

/-- What the `try` block answers to a choice of values. -/
def tryBlock
    (library : JsonLibrary)
    (invoke : Invoke State)
    (profile : McpClientProfile)
    (request : HttpRequest)
    (choice : Bytes → Bytes)
    (state : State) : Except Exception HttpResponse × State :=
  match library.parse request.body with
  | .error thrown => (haltOutcome library (.thrown thrown), state)
  | .ok json =>
      match readMethod json with
      | .error halt => (haltOutcome library halt, state)
      | .ok method =>
          match choiceVerdict json method choice with
          | .error halt => (haltOutcome library halt, state)
          | .ok () =>
              served library invoke profile json
                (choice (bytes "Origin")) state

theorem answer_withFields
    (invoke : Invoke State)
    (profile : McpClientProfile)
    (choice : Bytes → Bytes)
    (state : State) :
    (LocalMcpHttpService.catchJson library
        (LocalMcpHttpService.answer library invoke profile
          (request.withFields choice) state).1,
      (LocalMcpHttpService.answer library invoke profile
        (request.withFields choice) state).2) =
      tryBlock library invoke profile request choice state := by
  have sameBody : (request.withFields choice).body = request.body := rfl
  have origin :=
    header_withFields request choice
      (show bytes "Origin" ∈ headerNames by decide)
  unfold LocalMcpHttpService.answer tryBlock
  rw [sameBody]
  cases library.parse request.body with
  | error thrown =>
      rfl
  | ok json =>
      cases read : readMethod json with
      | error halt =>
          have failed :
              checkRequest (request.withFields choice) json =
                .error halt := by
            simp [checkRequest, read, bind, Except.bind]
          simp only [failed, read]
          cases halt <;> rfl
      | ok method =>
          simp only [checkRequest_withFields request choice read, read,
            origin]
          rw [← choiceVerdict]
          cases choiceVerdict json method choice with
          | error halt =>
              cases halt <;> rfl
          | ok passed =>
              unfold served
              rcases invoke profile json state with ⟨thrown | body, later⟩
              · rfl
              · rfl

/-- The answer to a client that is known. -/
def clientAnswer
    (library : JsonLibrary)
    (invoke : Invoke State)
    (profile : McpClientProfile)
    (request : HttpRequest)
    (choice : Bytes → Bytes)
    (state : State) : Except Exception HttpResponse × State :=
  if contentTypeIsJson (choice (bytes "Content-Type")) = false then
    (.ok { status := 415 }, state)
  else if acceptsBoth (choice (bytes "Accept")) = false then
    (.ok { status := 406 }, state)
  else
    tryBlock library invoke profile request choice state

/-- The answer to a posted request by the values of its lookups. -/
theorem handle_withFields
    (atPath : request.path = kMcpPath)
    (isPost : request.method = bytes "POST")
    (invoke : Invoke State)
    (choice : Bytes → Bytes)
    (state : State) :
    service.handle library invoke (request.withFields choice) state =
      if service.passesOrigin (choice (bytes "Origin")) = false then
        (.ok { status := 403 }, state)
      else
        match service.clientFor (choice (bytes "Authorization")) with
        | none => (.ok { status := 401 }, state)
        | some client =>
            clientAnswer library invoke client.profile request choice
              state := by
  have samePath : (request.withFields choice).path = kMcpPath := atPath
  have sameMethod :
      (request.withFields choice).method = bytes "POST" :=
    isPost
  have notOptions : bytes "POST" ≠ bytes "OPTIONS" := by
    decide
  have origin :=
    header_withFields request choice
      (show bytes "Origin" ∈ headerNames by decide)
  have contentType :=
    header_withFields request choice
      (show bytes "Content-Type" ∈ headerNames by decide)
  have accept :=
    header_withFields request choice
      (show bytes "Accept" ∈ headerNames by decide)
  have authorization :
      service.authenticate (request.withFields choice) =
        service.clientFor (choice (bytes "Authorization")) := by
    unfold LocalMcpHttpService.clientFor LocalMcpHttpService.authenticate
    rw [header_withFields request choice (by decide)]
    rfl
  unfold LocalMcpHttpService.handle
  simp only [samePath, sameMethod, notOptions, origin, contentType, accept,
    authorization, ne_eq, not_true_eq_false, ↓reduceIte]
  have stops :
      (!(choice (bytes "Origin")).isEmpty &&
          decide (choice (bytes "Origin") ∉ service.allowedOrigins)) =
        !service.passesOrigin (choice (bytes "Origin")) := by
    simp [LocalMcpHttpService.passesOrigin]
  have refuses :
      (!acceptsMediaType (choice (bytes "Accept"))
            (bytes "application/json") ||
          !acceptsMediaType (choice (bytes "Accept"))
            (bytes "text/event-stream")) =
        !acceptsBoth (choice (bytes "Accept")) := by
    simp [acceptsBoth]
  rw [stops, refuses]
  cases service.passesOrigin (choice (bytes "Origin")) with
  | false =>
      rfl
  | true =>
      cases service.clientFor (choice (bytes "Authorization")) with
      | none =>
          rfl
      | some client =>
          unfold clientAnswer
          cases contentTypeIsJson (choice (bytes "Content-Type")) with
          | false =>
              rfl
          | true =>
              cases acceptsBoth (choice (bytes "Accept")) with
              | false =>
                  rfl
              | true =>
                  exact answer_withFields invoke client.profile choice
                    state

section Stages

variable {invoke : Invoke State}
variable {profile : McpClientProfile}
variable {choice : Bytes → Bytes}
variable {state : State}

theorem handle_of_foreign
    (atPath : request.path = kMcpPath)
    (isPost : request.method = bytes "POST")
    (foreign : service.passesOrigin (choice (bytes "Origin")) = false) :
    service.handle library invoke (request.withFields choice) state =
      (.ok { status := 403 }, state) := by
  rw [handle_withFields atPath isPost, if_pos foreign]

theorem handle_of_unknown
    (atPath : request.path = kMcpPath)
    (isPost : request.method = bytes "POST")
    (passes : service.passesOrigin (choice (bytes "Origin")) = true)
    (unknown :
      (service.clientFor (choice (bytes "Authorization"))).isSome =
        false) :
    service.handle library invoke (request.withFields choice) state =
      (.ok { status := 401 }, state) := by
  have nobody :
      service.clientFor (choice (bytes "Authorization")) = none := by
    simpa using unknown
  rw [handle_withFields atPath isPost, if_neg (by simp [passes]), nobody]

theorem handle_of_known
    (atPath : request.path = kMcpPath)
    (isPost : request.method = bytes "POST")
    (passes : service.passesOrigin (choice (bytes "Origin")) = true)
    (known :
      (service.clientFor (choice (bytes "Authorization"))).isSome =
        true) :
    ∃ client,
      service.clientFor (choice (bytes "Authorization")) = some client ∧
        service.handle library invoke (request.withFields choice) state =
          clientAnswer library invoke client.profile request choice
            state := by
  obtain ⟨client, named⟩ := Option.isSome_iff_exists.mp known
  refine ⟨client, named, ?_⟩
  rw [handle_withFields atPath isPost, if_neg (by simp [passes]), named]

theorem clientAnswer_of_contentType
    (refused :
      contentTypeIsJson (choice (bytes "Content-Type")) = false) :
    clientAnswer library invoke profile request choice state =
      (.ok { status := 415 }, state) :=
  if_pos refused

theorem clientAnswer_of_accept
    (typed : contentTypeIsJson (choice (bytes "Content-Type")) = true)
    (refused : acceptsBoth (choice (bytes "Accept")) = false) :
    clientAnswer library invoke profile request choice state =
      (.ok { status := 406 }, state) := by
  rw [clientAnswer, if_neg (by simp [typed]), if_pos refused]

theorem clientAnswer_eq_tryBlock
    (typed : contentTypeIsJson (choice (bytes "Content-Type")) = true)
    (accepts : acceptsBoth (choice (bytes "Accept")) = true) :
    clientAnswer library invoke profile request choice state =
      tryBlock library invoke profile request choice state := by
  rw [clientAnswer, if_neg (by simp [typed]), if_neg (by simp [accepts])]

end Stages

/-- The answer to a preflight request by the value of its origin. -/
theorem handle_withFields_options
    (atPath : request.path = kMcpPath)
    (isOptions : request.method = bytes "OPTIONS")
    (invoke : Invoke State)
    (choice : Bytes → Bytes)
    (state : State) :
    service.handle library invoke (request.withFields choice) state =
      (.ok (service.preflight (choice (bytes "Origin"))), state) := by
  have samePath : (request.withFields choice).path = kMcpPath := atPath
  have sameMethod :
      (request.withFields choice).method = bytes "OPTIONS" :=
    isOptions
  have origin :=
    header_withFields request choice
      (show bytes "Origin" ∈ headerNames by decide)
  simp [LocalMcpHttpService.handle, samePath, sameMethod, origin]

/-- A preflight answer allows the origin that it is for. -/
theorem preflight_of_passes
    {origin : Bytes}
    (passes :
      (!origin.isEmpty && decide (origin ∈ service.allowedOrigins)) =
        true) :
    (service.preflight origin).status = 200 ∧
      (service.preflight origin).headers.head? =
        some (bytes "Access-Control-Allow-Origin", origin) := by
  have notRefused :
      ¬ (origin.isEmpty || decide (origin ∉ service.allowedOrigins)) =
        true := by
    simpa using passes
  constructor
  · rw [LocalMcpHttpService.preflight, if_neg notRefused]
  · rw [LocalMcpHttpService.preflight, if_neg notRefused]
    rfl

theorem preflight_of_fails
    {origin : Bytes}
    (fails :
      (!origin.isEmpty && decide (origin ∈ service.allowedOrigins)) =
        false) :
    service.preflight origin = { status := 403 } := by
  apply if_pos
  simpa [or_iff_not_imp_left] using fails

end Answers

section Conditions

variable (service : LocalMcpHttpService)
variable (request : HttpRequest)

/-- What reaches the protocol handler is one call, answered alike. -/
structure SameCall : Prop where
  profile :
    ∀ first ∈ lookedUp request.headers (bytes "Authorization"),
      ∀ second ∈ lookedUp request.headers (bytes "Authorization"),
        (service.clientFor first).map AuthenticatedClient.profile =
          (service.clientFor second).map AuthenticatedClient.profile
  origin :
    ∀ first ∈ lookedUp request.headers (bytes "Origin"),
      ∀ second ∈ lookedUp request.headers (bytes "Origin"),
        first = second
  /-- An empty field is not taken for a missing one. -/
  allowed :
    ∀ origin ∈ fieldValues request.headers (bytes "Origin"),
      origin ∈ service.allowedOrigins

/-- Every check of a posted request that is reached is decided. -/
def DecidedPost (library : JsonLibrary) : Prop :=
  Decided request.headers (bytes "Origin") service.passesOrigin
    (Decided request.headers (bytes "Authorization")
      (fun authorization => (service.clientFor authorization).isSome)
      (Decided request.headers (bytes "Content-Type") contentTypeIsJson
        (Decided request.headers (bytes "Accept") acceptsBoth
          (∀ json method,
            library.parse request.body = .ok json →
            readMethod json = .ok method →
            SameVersion request.headers json method
              (SameCall service request)))))

/-- The fields leave nothing to the order of the map. -/
structure OrderFree (library : JsonLibrary) : Prop where
  preflight :
    request.path = kMcpPath →
    request.method = bytes "OPTIONS" →
    Decided request.headers (bytes "Origin")
      (fun origin =>
        !origin.isEmpty && origin ∈ service.allowedOrigins)
      (∀ first ∈ lookedUp request.headers (bytes "Origin"),
        ∀ second ∈ lookedUp request.headers (bytes "Origin"),
          first = second)
  post :
    request.path = kMcpPath →
    request.method = bytes "POST" →
    DecidedPost service request library

/-- Some origin field is not allowed. -/
def HasForeignOrigin : Prop :=
  ∃ field ∈ request.headers,
    asciiEqualIgnoreCase field.1 (bytes "Origin") = true ∧
      field.2 ∉ service.allowedOrigins

/-- The order of the headers changes neither the answer nor its effects. -/
structure OrderIrrelevant (library : JsonLibrary) : Prop where
  same :
    ∀ (State : Type)
      (invoke : Invoke State)
      (state : State)
      (headers : List (Bytes × Bytes)),
      headers.Perm request.headers →
      service.handle library invoke (request.withHeaders headers) state =
        service.handle library invoke request state
  /-- No posted request with a foreign origin is served. -/
  refuses :
    request.method = bytes "POST" →
    HasForeignOrigin service request →
    ∀ (State : Type)
      (invoke : Invoke State)
      (state later : State)
      (headers : List (Bytes × Bytes))
      (response : HttpResponse),
      headers.Perm request.headers →
      service.handle library invoke (request.withHeaders headers) state =
        (.ok response, later) →
      response.status ≠ 200

end Conditions

end TgGate
