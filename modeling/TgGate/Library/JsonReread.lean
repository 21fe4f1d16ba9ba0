import TgGate.Library.JsonText

namespace TgGate.Library

/-!
# Accessors of values that were read back

An integer that is not negative is read back as an unsigned one.  No accessor
tells the difference: a conversion to an integral type keeps the same low bits
of either.  What a parser makes of a document therefore does not depend on
whether the document was written and read in between.
-/

namespace Json

/-- A value is read back as it is, but for its integers. -/
@[elab_as_elim] theorem reread_cases
    {property : Json → Json → Prop}
    (same : ∀ json, property json json)
    (integer :
      ∀ value : Int64,
        0 ≤ value →
        property (.numberInteger value) (.numberUnsigned value.toUInt64))
    (array :
      ∀ elements,
        property (.array elements) (.array (elements.map reread)))
    (object :
      ∀ members,
        property (.object members) (.object (rereadMembers members)))
    (json : Json) :
    property json json.reread := by
  cases json with
  | numberInteger value =>
      unfold reread
      split
      · next nonnegative => exact integer value nonnegative
      · exact same _
  | array elements =>
      rw [reread_array]
      exact array elements
  | object members =>
      rw [reread]
      exact object members
  | null | boolean | numberUnsigned | numberFloat | string =>
      rw [reread]
      · exact same _
      all_goals simp

/-- A conversion that does not tell a value from what is read back of it. -/
def ReadsThrough
    {Target : Type}
    (get : Json → Except JsonException Target) : Prop :=
  ∀ json, get json.reread = get json

section Conversions

theorem getString_reread : ReadsThrough getString :=
  reread_cases (fun _ => rfl) (fun _ _ => rfl) (fun _ => rfl)
    (fun _ => rfl)

theorem getBoolean_reread : ReadsThrough getBoolean :=
  reread_cases (fun _ => rfl) (fun _ _ => rfl) (fun _ => rfl)
    (fun _ => rfl)

/-- Narrowing keeps the low bits, also by way of the unsigned type. -/
theorem toInt32_toUInt64 (value : Int64) :
    value.toUInt64.toUInt32.toInt32 = value.toInt32 := by
  apply Int32.toBitVec_inj.mp
  simp [BitVec.signExtend_eq_setWidth_of_le]

theorem getInt32_reread (library : DocumentLibrary) :
    ReadsThrough (getInt32 library) := by
  refine reread_cases (fun _ => rfl) ?_ (fun _ => rfl) (fun _ => rfl)
  intro value _
  simp [getInt32, toInt32_toUInt64]

theorem getUInt16_reread (library : DocumentLibrary) :
    ReadsThrough (getUInt16 library) :=
  reread_cases (fun _ => rfl) (fun _ _ => rfl) (fun _ => rfl)
    (fun _ => rfl)

theorem getUInt64_reread (library : DocumentLibrary) :
    ReadsThrough (getUInt64 library) :=
  reread_cases (fun _ => rfl) (fun _ _ => rfl) (fun _ => rfl)
    (fun _ => rfl)

/-- A list that was read back converts element by element. -/
theorem mapM_reread
    {Target : Type}
    {get : Json → Except JsonException Target}
    (through : ReadsThrough get)
    (elements : List Json) :
    (elements.map reread).mapM get = elements.mapM get := by
  induction elements with
  | nil =>
      rfl
  | cons element rest inductionHypothesis =>
      rw [List.map_cons, List.mapM_cons, List.mapM_cons, through,
        inductionHypothesis]

theorem getStrings_reread : ReadsThrough getStrings :=
  reread_cases (fun _ => rfl) (fun _ _ => rfl)
    (mapM_reread getString_reread) (fun _ => rfl)

end Conversions

section Members

variable {Target : Type}
variable {get : Json → Except JsonException Target}

theorem valueOr_reread
    (through : ReadsThrough get)
    (json : Json)
    (key : Bytes)
    (fallback : Target) :
    json.reread.valueOr key get fallback =
      json.valueOr key get fallback := by
  unfold valueOr
  rw [isObject_reread, find?_reread]
  cases json.find? key with
  | none =>
      rfl
  | some member =>
      rw [Option.map_some]
      dsimp only
      rw [through]

theorem stringAt_reread (json : Json) (key : Bytes) :
    json.reread.stringAt key = json.stringAt key := by
  unfold stringAt atKey
  rw [isObject_reread, find?_reread]
  cases json.isObject with
  | false =>
      rfl
  | true =>
      cases json.find? key with
      | none =>
          rfl
      | some member =>
          exact getString_reread member

theorem atKey_reread (json : Json) (key : Bytes) :
    json.reread.atKey key = (json.atKey key).map reread := by
  unfold atKey
  rw [isObject_reread, find?_reread]
  cases json.isObject with
  | false =>
      rfl
  | true =>
      cases json.find? key <;> rfl

theorem contains_reread (json : Json) (key : Bytes) :
    json.reread.contains key = json.contains key := by
  simp [contains]

theorem isString_reread (json : Json) :
    json.reread.isString = json.isString :=
  reread_cases (fun _ => rfl) (fun _ _ => rfl) (fun _ => rfl)
    (fun _ => rfl) json

theorem isArray_reread (json : Json) :
    json.reread.isArray = json.isArray :=
  reread_cases (fun _ => rfl) (fun _ _ => rfl) (fun _ => rfl)
    (fun _ => rfl) json

theorem elements_reread (json : Json) :
    json.reread.elements = json.elements.map reread := by
  cases json with
  | array elements =>
      rw [reread_array]
      rfl
  | numberInteger value =>
      unfold reread
      split <;> rfl
  | null | boolean | numberUnsigned | numberFloat | string | object =>
      simp [reread, elements]

theorem size_reread (json : Json) : json.reread.size = json.size := by
  refine reread_cases (fun _ => rfl) (fun _ _ => rfl) ?_ ?_ json
  · intro elements
    simp [size]
  · intro members
    have sameKeys := congrArg List.length (keys_reread (.object members))
    rw [reread] at sameKeys
    simpa [keys, size] using sameKeys

end Members

end Json

end TgGate.Library
