import TgGate.Library.Json

namespace TgGate.Library

/-!
# Reading configuration documents

The accessors that configuration parsers call in addition to those of the
protocol handlers.  A conversion to an integral type is a `static_cast`; those
from `double` and the indented output stay parameters.

A parser rejects a document with an error text, and an accessor in it may
throw.  `ParseFailure` keeps the two apart.
-/

/-- The further parts of the JSON library that are not modelled. -/
structure DocumentLibrary extends JsonLibrary where
  dumpIndented : Nat → Json → Except JsonException Bytes
  floatToInt32 : UInt64 → Int32
  floatToUInt16 : UInt64 → UInt16
  floatToUInt64 : UInt64 → UInt64

/-- How a parser ends other than by accepting the document. -/
inductive ParseFailure where
  | thrown (exception : JsonException)
  | rejected (error : Bytes)
  deriving Repr, DecidableEq

namespace ParseFailure

variable {Value : Type}

/-- Let a JSON accessor throw. -/
def mayThrow
    (value : Except JsonException Value) : Except ParseFailure Value :=
  value.mapError thrown

/-- Reject the document unless a condition holds. -/
def require
    (condition : Bool)
    (error : Bytes) : Except ParseFailure Unit :=
  if condition then .ok () else .error (.rejected error)

/-- `catch (const nlohmann::json::exception&)`: reject instead. -/
def rejectThrown
    (error : Bytes) :
    Except ParseFailure Value → Except ParseFailure Value
  | .error (.thrown _) => .error (.rejected error)
  | outcome => outcome

@[simp] theorem mayThrow_eq_ok_iff
    {attempt : Except JsonException Value}
    {value : Value} :
    mayThrow attempt = .ok value ↔ attempt = .ok value := by
  cases attempt <;> simp [mayThrow, Except.mapError]

@[simp] theorem require_eq_ok_iff
    {condition : Bool}
    {error : Bytes}
    {value : Unit} :
    require condition error = .ok value ↔ condition = true := by
  cases condition <;> simp [require]

/-- Catching exceptions accepts nothing more. -/
@[simp] theorem rejectThrown_eq_ok_iff
    {error : Bytes}
    {attempt : Except ParseFailure Value}
    {value : Value} :
    rejectThrown error attempt = .ok value ↔ attempt = .ok value := by
  rcases attempt with (exception | text) | accepted <;>
    simp [rejectThrown]

end ParseFailure

namespace Json

/-- `is_array`. -/
def isArray : Json → Bool
  | .array _ => true
  | _ => false

/-- The elements a range-based loop over an array visits. -/
def elements : Json → List Json
  | .array elements => elements
  | _ => []

/-- The keys that `items()` of an object visits. -/
def keys : Json → List Bytes
  | .object members => members.map Prod.fst
  | _ => []

/-- `size`. -/
def size : Json → Nat
  | .null => 0
  | .array elements => elements.length
  | .object members => members.length
  | _ => 1

/-- `get<int>`: any number or boolean, converted by `static_cast`. -/
def getInt32
    (library : DocumentLibrary) : Json → Except JsonException Int32
  | .numberInteger value => .ok value.toInt32
  | .numberUnsigned value => .ok value.toUInt32.toInt32
  | .numberFloat bits => .ok (library.floatToInt32 bits)
  | .boolean value => .ok (if value then 1 else 0)
  | _ => .error .typeError

/-- `get<unsigned short>`: any number or boolean. -/
def getUInt16
    (library : DocumentLibrary) : Json → Except JsonException UInt16
  | .numberInteger value => .ok value.toUInt64.toUInt16
  | .numberUnsigned value => .ok value.toUInt16
  | .numberFloat bits => .ok (library.floatToUInt16 bits)
  | .boolean value => .ok (if value then 1 else 0)
  | _ => .error .typeError

/-- `get<std::size_t>`: any number. -/
def getUInt64
    (library : DocumentLibrary) : Json → Except JsonException UInt64
  | .numberInteger value => .ok value.toUInt64
  | .numberUnsigned value => .ok value
  | .numberFloat bits => .ok (library.floatToUInt64 bits)
  | _ => .error .typeError

/-- `get<std::vector<std::string>>`. -/
def getStrings : Json → Except JsonException (List Bytes)
  | .array elements => elements.mapM getString
  | _ => .error .typeError

/-- `get<std::vector<std::int64_t>>`. -/
def getInt64s
    (library : JsonLibrary) : Json → Except JsonException (List Int64)
  | .array elements => elements.mapM (getInt64 library)
  | _ => .error .typeError

/-- A literal object is an object. -/
theorem isObject_ofMembers (members : List (Bytes × Json)) :
    (ofMembers members).isObject = true :=
  rfl

/-- A member that is present is converted. -/
theorem valueOr_of_find?
    {Target : Type}
    {json value : Json}
    {key : Bytes}
    (found : json.find? key = some value)
    (get : Json → Except JsonException Target)
    (fallback : Target) :
    json.valueOr key get fallback = get value := by
  unfold valueOr
  rw [if_pos (isObject_of_find? found), found]

/-- `value` converts the member or returns the default of an object. -/
theorem valueOr_eq_ok_iff
    {Target : Type}
    {json : Json}
    {key : Bytes}
    {get : Json → Except JsonException Target}
    {fallback value : Target} :
    json.valueOr key get fallback = .ok value ↔
      (∃ member, json.find? key = some member ∧ get member = .ok value) ∨
        json.isObject = true ∧ json.find? key = none ∧
          fallback = value := by
  unfold valueOr
  cases found : json.find? key with
  | none =>
      cases json.isObject <;> simp
  | some member =>
      rw [if_pos (isObject_of_find? found)]
      simp

/-- A list that defaults to the empty one has what its member lists. -/
theorem mem_of_valueOr_eq_ok
    {Target : Type}
    {json : Json}
    {key : Bytes}
    {convert : Json → Except JsonException Target}
    {get : Json → Except JsonException (List Target)}
    {values : List Target}
    (arrays :
      ∀ member converted,
        get member = .ok converted ↔
          ∃ elements,
            member = .array elements ∧
              elements.mapM convert = .ok converted)
    (read : json.valueOr key get [] = .ok values)
    {value : Target} :
    value ∈ values ↔
      ∃ elements,
        json.find? key = some (.array elements) ∧
          ∃ element ∈ elements, convert element = .ok value := by
  rcases valueOr_eq_ok_iff.mp read with
    ⟨member, found, converted⟩ | ⟨-, absent, rfl⟩
  · obtain ⟨elements, rfl, each⟩ := (arrays member values).mp converted
    rw [mem_of_mapM_eq_ok each, found]
    constructor
    · intro listed
      exact ⟨elements, rfl, listed⟩
    · intro listed
      obtain ⟨others, same, listed⟩ := listed
      obtain rfl := Json.array.inj (Option.some.inj same)
      exact listed
  · simp [absent]

/-- Two members leave no room for another key. -/
theorem key_of_size_two
    {json first second : Json}
    {firstKey secondKey : Bytes}
    (size : json.size = 2)
    (hasFirst : json.find? firstKey = some first)
    (hasSecond : json.find? secondKey = some second)
    (apart : firstKey ≠ secondKey)
    {key : Bytes}
    (member : key ∈ json.keys) :
    key = firstKey ∨ key = secondKey := by
  cases json with
  | object members =>
      rcases members with
        _ | ⟨⟨one, oneValue⟩, _ | ⟨⟨two, twoValue⟩, _ | ⟨third, others⟩⟩⟩
      · cases size
      · cases size
      · simp only [find?, lookupMember_cons, lookupMember_nil]
          at hasFirst hasSecond
        simp only [keys, List.map_cons, List.map_nil, List.mem_cons,
          List.not_mem_nil, or_false] at member
        grind
      · simp [Json.size] at size
  | null | boolean | numberInteger | numberUnsigned | numberFloat
  | string | array =>
      cases member

theorem isArray_iff {json : Json} :
    json.isArray = true ↔ ∃ elements, json = .array elements := by
  cases json <;> simp [isArray]

theorem getStrings_eq_ok_iff
    (member : Json)
    (converted : List Bytes) :
    member.getStrings = .ok converted ↔
      ∃ elements,
        member = .array elements ∧
          elements.mapM getString = .ok converted := by
  cases member <;> simp [getStrings]

theorem getInt64s_eq_ok_iff
    (library : JsonLibrary)
    (member : Json)
    (converted : List Int64) :
    member.getInt64s library = .ok converted ↔
      ∃ elements,
        member = .array elements ∧
          elements.mapM (getInt64 library) = .ok converted := by
  cases member <;> simp [getInt64s]

/-- `at` returns a member that is present. -/
theorem atKey_of_find?
    {json value : Json}
    {key : Bytes}
    (found : json.find? key = some value) :
    json.atKey key = .ok value := by
  unfold atKey
  rw [if_pos (isObject_of_find? found), found]

theorem atKey_eq_ok_iff
    {json value : Json}
    {key : Bytes} :
    json.atKey key = .ok value ↔ json.find? key = some value := by
  constructor
  · intro read
    unfold atKey at read
    cases found : json.find? key with
    | none =>
        rw [found] at read
        split at read <;> cases read
    | some member =>
        rw [found] at read
        split at read
        · rw [Except.ok.inj read]
        · cases read
  · exact atKey_of_find?

end Json

end TgGate.Library
