import TgGate.HttpGate
import TgGate.Library.KeyedList
import Mathlib.Logic.Function.Basic

namespace TgGate

open Library

/-!
# Header fields in any order

The headers of a request are an unordered map whose keys are case sensitive,
copied from a multimap whose keys are not.  Several of them may match one name,
and a lookup returns the one that the iteration meets first.  Of every name the
answer of the host depends on that value only, and the order of the map can
make it any of the matching ones, for each name independently.
-/

/-- The names that `handle` looks up. -/
def headerNames : List Bytes := [
  bytes "Origin",
  bytes "Authorization",
  bytes "Content-Type",
  bytes "Accept",
  bytes "MCP-Protocol-Version",
  bytes "Mcp-Method",
  bytes "Mcp-Name"
]

/-- The values of the fields with a name. -/
def fieldValues
    (headers : List (Bytes × Bytes))
    (name : Bytes) : List Bytes :=
  (headers.filter fun field => asciiEqualIgnoreCase field.1 name).map
    Prod.snd

/-- What a lookup returns in some order: an absent field is empty. -/
def lookedUp
    (headers : List (Bytes × Bytes))
    (name : Bytes) : List Bytes :=
  match fieldValues headers name with
  | [] => [[]]
  | values => values

/-- A request with its headers in another order, or with other ones. -/
def HttpRequest.withHeaders
    (request : HttpRequest)
    (headers : List (Bytes × Bytes)) : HttpRequest :=
  { request with headers := headers }

section Lookups

variable {request : HttpRequest}
variable {headers reordered : List (Bytes × Bytes)}
variable {name : Bytes}

theorem mem_fieldValues_iff {value : Bytes} :
    value ∈ fieldValues headers name ↔
      ∃ field ∈ headers,
        asciiEqualIgnoreCase field.1 name = true ∧ field.2 = value := by
  simp [fieldValues, and_assoc]

/-- Some order makes a lookup return a given field. -/
theorem mem_lookedUp_of_mem_fieldValues
    {value : Bytes}
    (listed : value ∈ fieldValues headers name) :
    value ∈ lookedUp headers name := by
  unfold lookedUp
  split
  · next noField =>
      rw [noField] at listed
      cases listed
  · exact listed

/-- A lookup returns one of the values. -/
theorem header_mem_lookedUp :
    header (request.withHeaders headers) name ∈
      lookedUp headers name := by
  cases found :
      headers.find? fun field => asciiEqualIgnoreCase field.1 name with
  | none =>
      have noField : fieldValues headers name = [] := by
        simpa [fieldValues, List.find?_eq_none] using found
      simp [header, lookedUp, HttpRequest.withHeaders, found, noField]
  | some field =>
      have returned :
          header (request.withHeaders headers) name = field.2 := by
        simp [header, HttpRequest.withHeaders, found]
      rw [returned]
      exact mem_lookedUp_of_mem_fieldValues
        (mem_fieldValues_iff.mpr
          ⟨field, List.mem_of_find?_eq_some found,
            by simpa using List.find?_some found, rfl⟩)

/-- The order of the headers does not change what may be looked up. -/
theorem mem_lookedUp_congr
    (same : reordered.Perm headers)
    {value : Bytes} :
    value ∈ lookedUp reordered name ↔ value ∈ lookedUp headers name := by
  have samePerm :
      (fieldValues reordered name).Perm (fieldValues headers name) :=
    (same.filter _).map _
  unfold lookedUp
  cases shape : fieldValues headers name with
  | nil =>
      rw [shape, List.perm_nil] at samePerm
      rw [samePerm]
  | cons first rest =>
      rw [shape] at samePerm
      cases otherShape : fieldValues reordered name with
      | nil =>
          rw [otherShape] at samePerm
          simp at samePerm
      | cons other others =>
          rw [otherShape] at samePerm
          exact samePerm.mem_iff

/-- Some order makes a lookup return a given value and keeps the others. -/
theorem exists_perm_header
    {value : Bytes}
    (possible : value ∈ lookedUp headers name) :
    ∃ reordered : List (Bytes × Bytes),
      reordered.Perm headers ∧
        header (request.withHeaders reordered) name = value ∧
        ∀ other,
          asciiEqualIgnoreCase name other = false →
          header (request.withHeaders reordered) other =
            header (request.withHeaders headers) other := by
  by_cases listed : value ∈ fieldValues headers name
  · obtain ⟨field, member, isName, rfl⟩ := mem_fieldValues_iff.mp listed
    obtain ⟨reordered, same, found, kept⟩ :=
      @exists_perm_find? _
        (fun field => asciiEqualIgnoreCase field.1 name) _ _ member isName
    refine ⟨reordered, same, ?_, ?_⟩
    · simp [header, HttpRequest.withHeaders, found]
    · intro other differs
      have notOther : asciiEqualIgnoreCase field.1 other = false := by
        rw [← Bool.not_eq_true, asciiEqualIgnoreCase_iff] at differs ⊢
        rw [asciiEqualIgnoreCase_iff] at isName
        rwa [isName]
      have sameSearch :=
        kept (fun field => asciiEqualIgnoreCase field.1 other) notOther
      simp [header, HttpRequest.withHeaders, sameSearch]
  · have noField : fieldValues headers name = [] := by
      unfold lookedUp at possible
      split at possible
      · assumption
      · exact absurd possible listed
    have isEmpty : value = [] := by
      simpa [lookedUp, noField] using possible
    refine ⟨headers, List.Perm.refl _, ?_, fun _ _ => rfl⟩
    have returned := @header_mem_lookedUp request headers name
    rw [isEmpty]
    simpa [lookedUp, noField] using returned

/-- Every choice of possible values is made by some order. -/
theorem exists_perm_choice
    {names : List Bytes}
    (distinct :
      names.Pairwise fun first second =>
        asciiEqualIgnoreCase first second = false)
    {choice : Bytes → Bytes}
    (possible : ∀ name ∈ names, choice name ∈ lookedUp headers name) :
    ∃ reordered : List (Bytes × Bytes),
      reordered.Perm headers ∧
        ∀ name ∈ names,
          header (request.withHeaders reordered) name = choice name := by
  induction names with
  | nil =>
      exact ⟨headers, List.Perm.refl _, by simp⟩
  | cons name rest inductionHypothesis =>
      rw [List.pairwise_cons] at distinct
      obtain ⟨between, sameBetween, restChosen⟩ :=
        inductionHypothesis distinct.2 fun other member =>
          possible other (List.mem_cons_of_mem _ member)
      have stillPossible : choice name ∈ lookedUp between name :=
        (mem_lookedUp_congr sameBetween).mpr
          (possible name List.mem_cons_self)
      obtain ⟨reordered, same, chosen, kept⟩ :=
        @exists_perm_header request _ _ _ stillPossible
      refine ⟨reordered, same.trans sameBetween, ?_⟩
      intro other member
      rcases List.mem_cons.mp member with rfl | inRest
      · exact chosen
      · rw [kept other (distinct.1 other inRest)]
        exact restChosen other inRest

theorem headerNames_distinct :
    headerNames.Pairwise fun first second =>
      asciiEqualIgnoreCase first second = false := by
  decide

end Lookups

section Choices

/-- A request that has exactly one field of every name. -/
def HttpRequest.withFields
    (request : HttpRequest)
    (choice : Bytes → Bytes) : HttpRequest :=
  request.withHeaders (headerNames.map fun name => (name, choice name))

theorem header_withFields
    (request : HttpRequest)
    (choice : Bytes → Bytes)
    {name : Bytes}
    (member : name ∈ headerNames) :
    header (request.withFields choice) name = choice name := by
  simp only [headerNames, List.mem_cons, List.not_mem_nil, or_false]
    at member
  rcases member with rfl | rfl | rfl | rfl | rfl | rfl | rfl <;> rfl

/-- The answer depends on the headers through the seven lookups only. -/
theorem handle_congr
    {State : Type}
    (service : LocalMcpHttpService)
    (library : JsonLibrary)
    (invoke : Invoke State)
    (request : HttpRequest)
    {first second : List (Bytes × Bytes)}
    (same :
      ∀ name ∈ headerNames,
        header (request.withHeaders first) name =
          header (request.withHeaders second) name)
    (state : State) :
    service.handle library invoke (request.withHeaders first) state =
      service.handle library invoke (request.withHeaders second) state := by
  have origin := same (bytes "Origin") (by decide)
  have authorization := same (bytes "Authorization") (by decide)
  have contentType := same (bytes "Content-Type") (by decide)
  have accept := same (bytes "Accept") (by decide)
  have protocolVersion := same (bytes "MCP-Protocol-Version") (by decide)
  have method := same (bytes "Mcp-Method") (by decide)
  have name := same (bytes "Mcp-Name") (by decide)
  simp only [LocalMcpHttpService.handle, LocalMcpHttpService.authenticate,
    LocalMcpHttpService.answer, checkRequest, checkHeaders, nameMatches,
    origin, authorization, contentType, accept, protocolVersion, method,
    name]
  rfl

/-- The values that lookups may return together. -/
def Possible
    (headers : List (Bytes × Bytes))
    (choice : Bytes → Bytes) : Prop :=
  ∀ name ∈ headerNames, choice name ∈ lookedUp headers name

theorem Possible.update
    {headers : List (Bytes × Bytes)}
    {choice : Bytes → Bytes}
    (possible : Possible headers choice)
    {name value : Bytes}
    (listed : value ∈ lookedUp headers name) :
    Possible headers (Function.update choice name value) := by
  intro other member
  by_cases isName : other = name
  · subst other
    simpa using listed
  · simpa [isName] using possible other member

/-- The lookups in the given order are possible. -/
theorem possible_header (request : HttpRequest) :
    Possible request.headers (header request) :=
  fun _ _ => @header_mem_lookedUp request request.headers _

/-- The answers in all orders are those to all possible choices. -/
theorem handle_perm_iff
    {State : Type}
    {service : LocalMcpHttpService}
    {library : JsonLibrary}
    {invoke : Invoke State}
    {request : HttpRequest}
    {state : State}
    {property : Except Exception HttpResponse × State → Prop} :
    (∀ headers : List (Bytes × Bytes),
        headers.Perm request.headers →
        property
          (service.handle library invoke (request.withHeaders headers)
            state)) ↔
      ∀ choice,
        Possible request.headers choice →
        property
          (service.handle library invoke (request.withFields choice)
            state) := by
  constructor
  · intro ordered choice possible
    obtain ⟨headers, same, chosen⟩ :=
      @exists_perm_choice request _ _ headerNames_distinct choice possible
    have sameLookups :
        ∀ name ∈ headerNames,
          header (request.withHeaders headers) name =
            header (request.withFields choice) name := by
      intro name member
      rw [chosen name member, header_withFields request choice member]
    have answered := ordered headers same
    rwa [handle_congr service library invoke request sameLookups] at answered
  · intro chosen headers same
    have possible :
        Possible request.headers
          (header (request.withHeaders headers)) := by
      intro name member
      rw [← mem_lookedUp_congr same]
      exact header_mem_lookedUp
    have sameLookups :
        ∀ name ∈ headerNames,
          header (request.withHeaders headers) name =
            header
              (request.withFields (header (request.withHeaders headers)))
              name := by
      intro name member
      rw [header_withFields request _ member]
    have answered := chosen _ possible
    rwa [HttpRequest.withFields,
      ← handle_congr service library invoke request sameLookups]
      at answered

end Choices

end TgGate
