import TgGate.Library.ByteString

namespace TgGate.Library

/-!
# `nlohmann::json` values

The value tree of the JSON library and the accessors C++ code calls on it.
Objects are `std::map`s: members have unique keys and are kept in key order.
An accessor that throws returns the library exception it throws.

Parsing, serialisation and the conversions from `double` are the library's own
and stay parameters, collected in `JsonLibrary`.
-/

/-- The exception classes below `nlohmann::json::exception`. -/
inductive JsonException where
  | parseError
  | invalidIterator
  | typeError
  | outOfRange
  | otherError
  deriving Repr, DecidableEq

/-- What a C++ call can leave by, other than returning. -/
inductive Exception where
  | json (thrown : JsonException)
  | runtimeError
  | unknown
  | undefinedBehaviour
  deriving Repr, DecidableEq

/-- A JSON value; a float is kept as the bit pattern of its `double`. -/
inductive Json where
  | null
  | boolean (value : Bool)
  | numberInteger (value : Int64)
  | numberUnsigned (value : UInt64)
  | numberFloat (bits : UInt64)
  | string (value : Bytes)
  | array (elements : List Json)
  | object (members : List (Bytes × Json))
  deriving Repr, Inhabited

/-- The parts of the JSON library that are not modelled. -/
structure JsonLibrary where
  parse : Bytes → Except JsonException Json
  dump : Json → Except JsonException Bytes
  floatToInt64 : UInt64 → Int64
  floatToUInt32 : UInt64 → UInt32

namespace Json

/-- `std::map::find` on the members of an object. -/
def lookupMember (query : Bytes) : List (Bytes × Json) → Option Json
  | [] => none
  | (key, value) :: rest =>
      if query = key then some value else lookupMember query rest

@[simp] theorem lookupMember_nil (query : Bytes) :
    lookupMember query [] = none :=
  rfl

@[simp] theorem lookupMember_cons
    (query key : Bytes)
    (value : Json)
    (rest : List (Bytes × Json)) :
    lookupMember query ((key, value) :: rest) =
      if query = key then some value else lookupMember query rest :=
  rfl

/-- Insert a member before the first greater key. -/
def insertSorted
    (key : Bytes)
    (value : Json) :
    List (Bytes × Json) → List (Bytes × Json)
  | [] => [(key, value)]
  | (other, otherValue) :: rest =>
      if key < other then
        (key, value) :: (other, otherValue) :: rest
      else
        (other, otherValue) :: insertSorted key value rest

/-- `std::map::emplace` on the members of an object. -/
def emplaceMember
    (members : List (Bytes × Json))
    (member : Bytes × Json) : List (Bytes × Json) :=
  if (lookupMember member.1 members).isSome then
    members
  else
    insertSorted member.1 member.2 members

/-- An object written as an initializer list of pairs. -/
def ofMembers (members : List (Bytes × Json)) : Json :=
  .object (members.foldl emplaceMember [])

/-- The member of an object under a key, if the value is an object with one. -/
def find? : Json → Bytes → Option Json
  | .object members, key => lookupMember key members
  | _, _ => none

theorem lookupMember_insertSorted
    {key : Bytes}
    {value : Json}
    {members : List (Bytes × Json)}
    (absent : lookupMember key members = none)
    (query : Bytes) :
    lookupMember query (insertSorted key value members) =
      if query = key then
        some value
      else
        lookupMember query members := by
  induction members with
  | nil =>
      rfl
  | cons member rest inductionHypothesis =>
      rcases member with ⟨other, otherValue⟩
      have keyNe : key ≠ other := by
        rintro rfl
        simp at absent
      have restAbsent : lookupMember key rest = none := by
        simpa [keyNe] using absent
      unfold insertSorted
      split
      · rfl
      · by_cases isOther : query = other
        · subst query
          simp [keyNe.symm]
        · simp [isOther, inductionHypothesis restAbsent]

theorem lookupMember_emplaceMember
    (members : List (Bytes × Json))
    (member : Bytes × Json)
    (query : Bytes) :
    lookupMember query (emplaceMember members member) =
      (lookupMember query members).or
        (if query = member.1 then some member.2 else none) := by
  unfold emplaceMember
  cases found : lookupMember member.1 members with
  | some value =>
      by_cases isKey : query = member.1 <;>
        simp [isKey, found]
  | none =>
      simp only [Option.isSome_none, Bool.false_eq_true, ↓reduceIte]
      rw [lookupMember_insertSorted found]
      by_cases isKey : query = member.1 <;>
        simp [isKey, found]

theorem lookupMember_foldl_emplaceMember
    (initial members : List (Bytes × Json))
    (query : Bytes) :
    lookupMember query (members.foldl emplaceMember initial) =
      (lookupMember query initial).or (lookupMember query members) := by
  induction members generalizing initial with
  | nil =>
      simp
  | cons member rest inductionHypothesis =>
      rw [List.foldl_cons, inductionHypothesis,
        lookupMember_emplaceMember, Option.or_assoc]
      congr 1
      rcases member with ⟨key, value⟩
      by_cases isKey : query = key <;>
        simp [isKey]

/-- Looking a key up in a literal object finds its first pair with that key. -/
@[simp] theorem find?_ofMembers
    (members : List (Bytes × Json))
    (key : Bytes) :
    (ofMembers members).find? key = lookupMember key members := by
  simp [ofMembers, find?, lookupMember_foldl_emplaceMember]

/-- `is_object`. -/
def isObject : Json → Bool
  | .object _ => true
  | _ => false

/-- `is_string`. -/
def isString : Json → Bool
  | .string _ => true
  | _ => false

/-- `is_number`. -/
def isNumber : Json → Bool
  | .numberInteger _ | .numberUnsigned _ | .numberFloat _ => true
  | _ => false

/-- `is_null`. -/
def isNull : Json → Bool
  | .null => true
  | _ => false

/-- `contains`: an object with a member under the key. -/
def contains (json : Json) (key : Bytes) : Bool :=
  (json.find? key).isSome

/-- `at` with a key. -/
def atKey (json : Json) (key : Bytes) : Except JsonException Json :=
  if json.isObject then
    match json.find? key with
    | some value => .ok value
    | none => .error .outOfRange
  else
    .error .typeError

/-- `get<std::string>`. -/
def getString : Json → Except JsonException Bytes
  | .string value => .ok value
  | _ => .error .typeError

/-- `get<bool>`. -/
def getBoolean : Json → Except JsonException Bool
  | .boolean value => .ok value
  | _ => .error .typeError

/-- `get<std::int64_t>`: any number, converted by `static_cast`. -/
def getInt64
    (library : JsonLibrary) : Json → Except JsonException Int64
  | .numberInteger value => .ok value
  | .numberUnsigned value => .ok value.toInt64
  | .numberFloat bits => .ok (library.floatToInt64 bits)
  | _ => .error .typeError

/-- `at(key).get<std::string>()`. -/
def stringAt (json : Json) (key : Bytes) : Except JsonException Bytes :=
  json.atKey key >>= getString

/-- `get<unsigned int>`: any number or boolean, converted by `static_cast`. -/
def getUInt32
    (library : JsonLibrary) : Json → Except JsonException UInt32
  | .numberInteger value => .ok value.toUInt64.toUInt32
  | .numberUnsigned value => .ok value.toUInt32
  | .numberFloat bits => .ok (library.floatToUInt32 bits)
  | .boolean value => .ok (if value then 1 else 0)
  | _ => .error .typeError

/-- `value(key, default)`, with the conversion of a present member given. -/
def valueOr
    {Target : Type}
    (json : Json)
    (key : Bytes)
    (get : Json → Except JsonException Target)
    (fallback : Target) : Except JsonException Target :=
  if json.isObject then
    match json.find? key with
    | some value => get value
    | none => .ok fallback
  else
    .error .typeError

/-- A value with a member is an object. -/
theorem isObject_of_find?
    {json value : Json}
    {key : Bytes}
    (found : json.find? key = some value) :
    json.isObject = true := by
  cases json with
  | object members =>
      rfl
  | null | boolean | numberInteger | numberUnsigned | numberFloat
  | string | array =>
      simp [find?] at found

theorem contains_iff {json : Json} {key : Bytes} :
    json.contains key = true ↔ ∃ value, json.find? key = some value := by
  unfold contains
  exact Option.isSome_iff_exists

theorem getString_eq_ok_iff {json : Json} {value : Bytes} :
    json.getString = .ok value ↔ json = .string value := by
  cases json <;> simp [getString]

/-- A computation that may throw succeeds if all of its parts do. -/
theorem bind_eq_ok_iff
    {Failure First Second : Type}
    {first : Except Failure First}
    {next : First → Except Failure Second}
    {result : Second} :
    first >>= next = .ok result ↔
      ∃ value, first = .ok value ∧ next value = .ok result := by
  cases first with
  | error thrown =>
      simp [bind, Except.bind]
  | ok value =>
      simp [bind, Except.bind]

/-- `at(key).get<std::string>()` succeeds exactly on a string member. -/
@[simp] theorem stringAt_eq_ok_iff
    {json : Json}
    {key text : Bytes} :
    json.stringAt key = .ok text ↔
      json.find? key = some (.string text) := by
  unfold stringAt atKey
  cases found : json.find? key with
  | none =>
      cases json.isObject <;> simp [bind, Except.bind]
  | some value =>
      rw [if_pos (isObject_of_find? found)]
      simp [bind, Except.bind, getString_eq_ok_iff]

/-- `value(key, "")` returns a nonempty text only from a string member. -/
theorem valueOr_getString_eq_ok_iff
    {json : Json}
    {key text : Bytes}
    (nonempty : text ≠ []) :
    json.valueOr key getString [] = .ok text ↔
      json.find? key = some (.string text) := by
  unfold valueOr
  cases found : json.find? key with
  | none =>
      cases json.isObject <;> simp [nonempty.symm]
  | some value =>
      rw [if_pos (isObject_of_find? found)]
      simp [getString_eq_ok_iff]

/-- An object always has a value or the default under a key. -/
theorem exists_valueOr_eq_ok
    {json : Json}
    (object : json.isObject = true)
    (key : Bytes)
    (fallback : Json) :
    ∃ value, json.valueOr key .ok fallback = .ok value := by
  unfold valueOr
  rw [if_pos object]
  cases json.find? key <;> exact ⟨_, rfl⟩

end Json

section Conversion

variable {Element Target Failure : Type}
variable {convert : Element → Except Failure Target}

/-- Converting a list fails only if one of its elements does. -/
theorem exists_mapM_eq_ok
    {list : List Element}
    (converts : ∀ element ∈ list, ∃ target, convert element = .ok target) :
    ∃ targets, list.mapM convert = .ok targets := by
  induction list with
  | nil =>
      exact ⟨[], rfl⟩
  | cons head rest inductionHypothesis =>
      obtain ⟨target, headShape⟩ := converts head (by simp)
      obtain ⟨targets, restShape⟩ :=
        inductionHypothesis fun element member =>
          converts element (by simp [member])
      refine ⟨target :: targets, ?_⟩
      rw [List.mapM_cons, headShape, restShape]
      rfl

/-- The results are the conversions of the elements. -/
theorem mem_of_mapM_eq_ok
    {list : List Element}
    {targets : List Target}
    (converted : list.mapM convert = .ok targets)
    {target : Target} :
    target ∈ targets ↔
      ∃ element ∈ list, convert element = .ok target := by
  induction list generalizing targets with
  | nil =>
      cases converted
      simp
  | cons head rest inductionHypothesis =>
      rw [List.mapM_cons] at converted
      cases headShape : convert head with
      | error thrown =>
          rw [headShape] at converted
          cases converted
      | ok headTarget =>
          cases restShape : rest.mapM convert with
          | error thrown =>
              rw [headShape, restShape] at converted
              cases converted
          | ok restTargets =>
              rw [headShape, restShape] at converted
              cases converted
              simp [inductionHypothesis restShape, headShape, eq_comm]

/-- An attempt succeeds whatever its failures are turned into. -/
theorem eq_ok_of_mapError
    {First Second Value : Type}
    {turn : First → Second}
    {attempt : Except First Value}
    {value : Value}
    (succeeds : attempt.mapError turn = .ok value) :
    attempt = .ok value := by
  cases attempt with
  | error =>
      cases succeeds
  | ok =>
      obtain rfl := Except.ok.inj succeeds
      rfl

end Conversion

end TgGate.Library
