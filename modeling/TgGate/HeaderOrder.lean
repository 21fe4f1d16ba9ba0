import TgGate.HeaderDecisions
import TgGate.Library.JsonStrings

namespace TgGate

open Library

/-!
# Answers in every header order

Fields that differ in the case of their names only are all kept, and a lookup
returns the one that comes first.  The answer does not depend on the order
exactly if, at every check that is reached, the fields that may be looked up
all fail it or all pass it, and what reaches the protocol handler is the same.
-/

section Sufficiency

variable {State : Type}
variable {service : LocalMcpHttpService}
variable {library : JsonLibrary}
variable {request : HttpRequest}
variable {invoke : Invoke State}
variable {state : State}

/-- A request that is not JSON-RPC is not reported as a success. -/
theorem status_of_readMethod_eq_error
    {json : Json}
    {halt : Halt}
    (failed : readMethod json = .error halt) :
    halt.reported.status ≠ 200 := by
  apply status_reported
  rintro rejection rfl
  unfold readMethod at failed
  simp only [bind_eq_error_iff, require_eq_error_iff,
    mayThrow_eq_error_iff, Halt.rejected.injEq, reduceCtorEq, and_false,
    exists_false, false_or, or_false] at failed
  rcases failed with ⟨-, rfl⟩ | ⟨-, -, version, -, ⟨-, rfl⟩⟩
  · simp
  · simp

/-- All possible choices are answered alike, and no success if foreign. -/
def OneAnswer
    (service : LocalMcpHttpService)
    (library : JsonLibrary)
    (request : HttpRequest)
    (invoke : Invoke State)
    (state : State) : Prop :=
  ∃ answer,
    (∀ choice,
      Possible request.headers choice →
      service.handle library invoke (request.withFields choice) state =
        answer) ∧
      (HasForeignOrigin service request →
        ∀ response later,
          answer = (.ok response, later) → response.status ≠ 200)

/-- A status that is no success, for all choices. -/
theorem OneAnswer.of_status
    {status : Nat}
    (failure : status ≠ 200)
    (answers :
      ∀ choice,
        Possible request.headers choice →
        service.handle library invoke (request.withFields choice) state =
          (.ok { status := status }, state)) :
    OneAnswer service library request invoke state := by
  refine ⟨_, answers, ?_⟩
  intro foreign response later same
  obtain rfl := Except.ok.inj (congrArg Prod.fst same)
  exact failure

/-- Halts with one report, for all choices. -/
theorem OneAnswer.of_halts
    (checks : ChecksUtf8 library)
    {reported : Rejection}
    (failure : reported.status ≠ 200)
    (answers :
      ∀ choice,
        Possible request.headers choice →
        ∃ halt : Halt,
          halt.reported = reported ∧
            service.handle library invoke (request.withFields choice)
                state =
              (haltOutcome library halt, state)) :
    OneAnswer service library request invoke state := by
  obtain ⟨halt, isReported, -⟩ := answers _ (possible_header request)
  refine ⟨(haltOutcome library halt, state), ?_, ?_⟩
  · intro choice chosen
    obtain ⟨other, otherReported, answered⟩ := answers choice chosen
    rw [answered,
      haltOutcome_congr checks (otherReported.trans isReported.symm)]
  · intro foreign response later same
    obtain ⟨text, -, outcome⟩ := haltOutcome_eq checks halt
    rw [outcome] at same
    obtain rfl := Except.ok.inj (congrArg Prod.fst same)
    rw [isReported]
    exact failure

/-- Calls with one profile and one origin, for all choices. -/
theorem OneAnswer.of_sameCall
    (json : Json)
    (same : SameCall service request)
    (answers :
      ∀ choice,
        Possible request.headers choice →
        ∃ client,
          service.clientFor (choice (bytes "Authorization")) =
              some client ∧
            service.handle library invoke (request.withFields choice)
                state =
              served library invoke client.profile json
                (choice (bytes "Origin")) state) :
    OneAnswer service library request invoke state := by
  have possible := possible_header request
  obtain ⟨client, named, -⟩ := answers _ possible
  refine ⟨served library invoke client.profile json
    (header request (bytes "Origin")) state, ?_, ?_⟩
  · intro choice chosen
    obtain ⟨other, otherNamed, answered⟩ := answers choice chosen
    have sameProfile :=
      same.profile _ (chosen (bytes "Authorization") (by decide))
        _ (possible (bytes "Authorization") (by decide))
    rw [named, otherNamed, Option.map_some, Option.map_some,
      Option.some.injEq] at sameProfile
    rw [answered, sameProfile,
      same.origin _ (chosen (bytes "Origin") (by decide))
        _ (possible (bytes "Origin") (by decide))]
  · intro foreign
    obtain ⟨field, member, isOrigin, notAllowed⟩ := foreign
    exact absurd
      (same.allowed _ (mem_fieldValues_iff.mpr
        ⟨field, member, isOrigin, rfl⟩))
      notAllowed

/-- The `try` block answers alike where its checks are decided. -/
theorem oneAnswer_of_tryBlock
    (checks : ChecksUtf8 library)
    (decided :
      ∀ json method,
        library.parse request.body = .ok json →
        readMethod json = .ok method →
        SameVersion request.headers json method
          (SameCall service request))
    (answers :
      ∀ choice,
        Possible request.headers choice →
        ∃ client,
          service.clientFor (choice (bytes "Authorization")) =
              some client ∧
            service.handle library invoke (request.withFields choice)
                state =
              tryBlock library invoke client.profile request choice
                state) :
    OneAnswer service library request invoke state := by
  unfold tryBlock at answers
  cases parsed : library.parse request.body with
  | error thrown =>
      simp only [parsed] at answers
      refine .of_halts checks
        (@status_reported (.thrown thrown) fun _ impossible => by
          cases impossible) ?_
      intro choice chosen
      obtain ⟨client, -, answered⟩ := answers choice chosen
      exact ⟨_, rfl, answered⟩
  | ok json =>
      cases read : readMethod json with
      | error halt =>
          simp only [parsed, read] at answers
          refine .of_halts checks (status_of_readMethod_eq_error read) ?_
          intro choice chosen
          obtain ⟨client, -, answered⟩ := answers choice chosen
          exact ⟨halt, rfl, answered⟩
      | ok method =>
          simp only [parsed, read] at answers
          cases oneVerdict_of_sameVersion
            (decided json method parsed read) with
          | stops reported failure halts =>
              refine .of_halts checks failure ?_
              intro choice chosen
              obtain ⟨halt, verdict, isReported⟩ := halts choice chosen
              obtain ⟨client, -, answered⟩ := answers choice chosen
              rw [verdict] at answered
              exact ⟨halt, isReported, answered⟩
          | serves passes same =>
              refine .of_sameCall json same ?_
              intro choice chosen
              obtain ⟨client, named, answered⟩ := answers choice chosen
              rw [passes choice chosen] at answered
              exact ⟨client, named, answered⟩

theorem oneAnswer_of_decidedPost
    (checks : ChecksUtf8 library)
    (atPath : request.path = kMcpPath)
    (isPost : request.method = bytes "POST")
    (decided : DecidedPost service request library) :
    OneAnswer service library request invoke state := by
  rcases decided with origins | ⟨origins, decided⟩
  · refine @OneAnswer.of_status _ _ _ _ _ _ 403 (by decide) ?_
    intro choice chosen
    exact handle_of_foreign atPath isPost
      (origins _ (chosen (bytes "Origin") (by decide)))
  rcases decided with clients | ⟨clients, decided⟩
  · refine @OneAnswer.of_status _ _ _ _ _ _ 401 (by decide) ?_
    intro choice chosen
    exact handle_of_unknown atPath isPost
      (origins _ (chosen (bytes "Origin") (by decide)))
      (clients _ (chosen (bytes "Authorization") (by decide)))
  have answered :
      ∀ choice,
        Possible request.headers choice →
        ∃ client,
          service.clientFor (choice (bytes "Authorization")) =
              some client ∧
            service.handle library invoke (request.withFields choice)
                state =
              clientAnswer library invoke client.profile request choice
                state :=
    fun choice chosen =>
      handle_of_known atPath isPost
        (origins _ (chosen (bytes "Origin") (by decide)))
        (clients _ (chosen (bytes "Authorization") (by decide)))
  rcases decided with contentTypes | ⟨contentTypes, decided⟩
  · refine @OneAnswer.of_status _ _ _ _ _ _ 415 (by decide) ?_
    intro choice chosen
    obtain ⟨client, -, answer⟩ := answered choice chosen
    rw [answer,
      clientAnswer_of_contentType
        (contentTypes _ (chosen (bytes "Content-Type") (by decide)))]
  rcases decided with acceptable | ⟨acceptable, decided⟩
  · refine @OneAnswer.of_status _ _ _ _ _ _ 406 (by decide) ?_
    intro choice chosen
    obtain ⟨client, -, answer⟩ := answered choice chosen
    rw [answer,
      clientAnswer_of_accept
        (contentTypes _ (chosen (bytes "Content-Type") (by decide)))
        (acceptable _ (chosen (bytes "Accept") (by decide)))]
  · refine oneAnswer_of_tryBlock checks decided ?_
    intro choice chosen
    obtain ⟨client, named, answer⟩ := answered choice chosen
    refine ⟨client, named, ?_⟩
    rw [answer,
      clientAnswer_eq_tryBlock
        (contentTypes _ (chosen (bytes "Content-Type") (by decide)))
        (acceptable _ (chosen (bytes "Accept") (by decide)))]

end Sufficiency

section Equivalence

variable {service : LocalMcpHttpService}
variable {library : JsonLibrary}
variable {request : HttpRequest}

theorem orderFree_of_orderIrrelevant
    (checks : ChecksUtf8 library)
    (shows : ShowsStrings library)
    (irrelevant : OrderIrrelevant service request library) :
    OrderFree service request library := by
  have possible := possible_header request
  have asGiven :
      ∀ choice,
        Possible request.headers choice →
        recordedAnswer service library request choice =
          service.handle library recordProfile request [] :=
    (@handle_perm_iff _ service library recordProfile request []
      (· = service.handle library recordProfile request [])).mp
        (irrelevant.same _ recordProfile [])
  have constant :
      ∀ choice,
        Possible request.headers choice →
        recordedAnswer service library request choice =
          recordedAnswer service library request (header request) := by
    intro choice chosen
    exact (asGiven choice chosen).trans (asGiven _ possible).symm
  constructor
  · intro atPath isOptions
    exact decidedPreflight_of_constant atPath isOptions possible constant
  · intro atPath isPost
    apply decidedPost_of_constant checks shows atPath isPost possible
      constant
    intro foreign response later answered
    have refused :=
      irrelevant.refuses isPost foreign _ recordProfile [] later
        request.headers response (List.Perm.refl _)
    rw [asGiven _ possible] at answered
    exact refused answered

/-- One answer to all choices is the answer in all orders. -/
theorem orderIrrelevant_of_oneAnswer
    (answers :
      ∀ (State : Type) (invoke : Invoke State) (state : State),
        OneAnswer service library request invoke state) :
    OrderIrrelevant service request library := by
  constructor
  · intro State invoke state headers reordered
    obtain ⟨answer, same, -⟩ := answers State invoke state
    have inAllOrders := (@handle_perm_iff _ _ _ _ _ _ (· = answer)).mpr same
    have asGiven := inAllOrders request.headers (List.Perm.refl _)
    exact (inAllOrders headers reordered).trans asGiven.symm
  · intro isPost foreign State invoke state later headers response
      reordered answered
    obtain ⟨answer, same, refuses⟩ := answers State invoke state
    have inAllOrders := (@handle_perm_iff _ _ _ _ _ _ (· = answer)).mpr same
    apply refuses foreign response later
    rw [← inAllOrders headers reordered, answered]

theorem oneAnswer_of_decidedPreflight
    {State : Type}
    {invoke : Invoke State}
    {state : State}
    (atPath : request.path = kMcpPath)
    (isOptions : request.method = bytes "OPTIONS")
    (decided :
      Decided request.headers (bytes "Origin")
        (fun origin =>
          !origin.isEmpty && decide (origin ∈ service.allowedOrigins))
        (∀ first ∈ lookedUp request.headers (bytes "Origin"),
          ∀ second ∈ lookedUp request.headers (bytes "Origin"),
            first = second)) :
    OneAnswer service library request invoke state := by
  have answer :=
    fun choice =>
      @handle_withFields_options _ service library _ atPath isOptions
        invoke choice state
  rcases decided with fails | ⟨passes, same⟩
  · refine @OneAnswer.of_status _ _ _ _ _ _ 403 (by decide) ?_
    intro choice chosen
    rw [answer,
      preflight_of_fails (fails _ (chosen (bytes "Origin") (by decide)))]
  · refine ⟨(.ok (service.preflight (header request (bytes "Origin"))),
      state), ?_, ?_⟩
    · intro choice chosen
      rw [answer,
        same _ (chosen (bytes "Origin") (by decide)) _
          (possible_header request (bytes "Origin") (by decide))]
    · intro foreign
      obtain ⟨field, member, isOrigin, notAllowed⟩ := foreign
      have passed :=
        passes field.2
          (mem_lookedUp_of_mem_fieldValues
            (mem_fieldValues_iff.mpr ⟨field, member, isOrigin, rfl⟩))
      simp [notAllowed] at passed

theorem orderIrrelevant_of_orderFree
    (checks : ChecksUtf8 library)
    (free : OrderFree service request library) :
    OrderIrrelevant service request library := by
  apply orderIrrelevant_of_oneAnswer
  intro State invoke state
  by_cases atPath : request.path = kMcpPath
  · by_cases isOptions : request.method = bytes "OPTIONS"
    · exact oneAnswer_of_decidedPreflight atPath isOptions
        (free.preflight atPath isOptions)
    · by_cases isPost : request.method = bytes "POST"
      · exact oneAnswer_of_decidedPost checks atPath isPost
          (free.post atPath isPost)
      · refine @OneAnswer.of_status _ _ _ _ _ _ 405 (by decide) ?_
        intro choice chosen
        have samePath : (request.withFields choice).path = kMcpPath :=
          atPath
        have notOptions :
            (request.withFields choice).method ≠ bytes "OPTIONS" :=
          isOptions
        have notPost :
            (request.withFields choice).method ≠ bytes "POST" :=
          isPost
        simp [LocalMcpHttpService.handle, samePath, notOptions, notPost]
  · refine @OneAnswer.of_status _ _ _ _ _ _ 404 (by decide) ?_
    intro choice chosen
    exact if_pos atPath

/--
The order of the headers is irrelevant exactly if, at every check that is
reached, the fields that may be looked up agree.
-/
theorem orderIrrelevant_iff
    (service : LocalMcpHttpService)
    (library : JsonLibrary)
    (request : HttpRequest)
    (checks : ChecksUtf8 library)
    (shows : ShowsStrings library) :
    OrderIrrelevant service request library ↔
      OrderFree service request library :=
  ⟨orderFree_of_orderIrrelevant checks shows,
    orderIrrelevant_of_orderFree checks⟩

end Equivalence

/-- A library that reads the body of the request for the tools. -/
def listToolsLibrary : JsonLibrary :=
  checkingLibrary [(listToolsRequest.body, listToolsJson)]

/-- A request that accepts the media types in two ways. -/
def twoAcceptsRequest : HttpRequest :=
  listToolsRequest.withHeaders
    ((bytes "accept", bytes "text/event-stream, application/json") ::
      listToolsRequest.headers)

theorem orderFree_twoAcceptsRequest :
    OrderFree oneClientService twoAcceptsRequest listToolsLibrary where
  preflight _ isOptions := absurd isOptions (by decide)
  post _ _ := by
    have oneAuthorization :
        ∀ value ∈
          lookedUp twoAcceptsRequest.headers (bytes "Authorization"),
          value = bytes "bearer secret" := by
      decide
    have noOrigin :
        ∀ value ∈ lookedUp twoAcceptsRequest.headers (bytes "Origin"),
          value = [] := by
      decide
    have oneMethod :
        ∀ value ∈
          lookedUp twoAcceptsRequest.headers (bytes "Mcp-Method"),
          value = bytes "tools/list" := by
      decide
    have noName :
        ∀ value ∈ lookedUp twoAcceptsRequest.headers (bytes "Mcp-Name"),
          value = [] := by
      decide
    refine .inr ⟨by decide, .inr ⟨by decide, .inr ⟨by decide,
      .inr ⟨by decide, ?_⟩⟩⟩⟩
    intro json method parsed read
    refine .supported (by decide) ?_
    intro params readParams
    refine .of_same oneMethod (.of_same noName fun supported => ?_)
    constructor
    · intro first firstListed second secondListed
      rw [oneAuthorization first firstListed,
        oneAuthorization second secondListed]
    · intro first firstListed second secondListed
      rw [noOrigin first firstListed, noOrigin second secondListed]
    · intro origin listed
      have none :
          fieldValues twoAcceptsRequest.headers (bytes "Origin") = [] := by
        decide
      rw [none] at listed
      cases listed

theorem orderIrrelevant_iff_twoAcceptsRequest :
    OrderIrrelevant oneClientService twoAcceptsRequest
      listToolsLibrary :=
  (orderIrrelevant_iff _ _ _ (checksUtf8_checkingLibrary _)
    (showsStrings_checkingLibrary _)).mpr orderFree_twoAcceptsRequest

/-- A host that allows one origin. -/
def oneOriginService : LocalMcpHttpService :=
  { oneClientService with
    allowedOrigins := [bytes "http://localhost"] }

/-- A request with two fields for the origin, of which one is allowed. -/
def twoOriginsRequest : HttpRequest :=
  listToolsRequest.withHeaders
    ((bytes "Origin", bytes "http://example") ::
      (bytes "origin", bytes "http://localhost") ::
        listToolsRequest.headers)

/-- The other order of the two fields. -/
def swappedOriginsRequest : HttpRequest :=
  listToolsRequest.withHeaders
    ((bytes "origin", bytes "http://localhost") ::
      (bytes "Origin", bytes "http://example") ::
        listToolsRequest.headers)

/-- The foreign origin is refused in one order and served in the other. -/
theorem orderRelevant_twoOriginsRequest :
    ¬ OrderIrrelevant oneOriginService twoOriginsRequest
      listToolsLibrary := by
  intro irrelevant
  have same :=
    irrelevant.same _ (fun _ _ state => (.ok .null, state)) ()
      swappedOriginsRequest.headers (List.Perm.swap ..)
  have refused :
      ((oneOriginService.handle listToolsLibrary
          (fun _ _ state => (.ok .null, state))
          twoOriginsRequest ()).1.toOption.map HttpResponse.status) =
        some 403 := by
    decide +kernel
  have served :
      ((oneOriginService.handle listToolsLibrary
          (fun _ _ state => (.ok .null, state))
          swappedOriginsRequest ()).1.toOption.map HttpResponse.status) =
        some 200 := by
    decide +kernel
  rw [← same] at refused
  exact absurd (refused.symm.trans served) (by decide)

end TgGate
