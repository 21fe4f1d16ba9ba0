import Mathlib.Data.List.Forall2
import TgGate.Library.JsonDocument

namespace TgGate.Library

/-!
# JSON integers and what a conversion keeps of them

A JSON integer is held as a signed or as an unsigned one of 64 bits.  A
`static_cast` to an integral type keeps it modulo the number of values of that
type: the conversion is exact exactly for the integers that the type has.
-/

section Wrapping

/-- Wrapping into a signed type is exact within its range. -/
theorem bmod_eq_self_iff
    {half : Nat}
    (positive : 0 < half)
    (integer : Int) :
    integer.bmod (2 * half) = integer ↔
      -half ≤ integer ∧ integer < half := by
  constructor
  · intro same
    have lower := Int.le_bmod (x := integer) (m := 2 * half) (by omega)
    have upper := Int.bmod_lt (x := integer) (m := 2 * half) (by omega)
    omega
  · intro bounded
    exact Int.bmod_eq_of_le_mul_two (by omega) (by omega)

/-- Wrapping into an unsigned type is exact within its range. -/
theorem emod_eq_self_iff
    {size : Int}
    (positive : 0 < size)
    (integer : Int) :
    integer % size = integer ↔ 0 ≤ integer ∧ integer < size := by
  constructor
  · intro same
    have lower := Int.emod_nonneg integer (by omega : size ≠ 0)
    have upper := Int.emod_lt_of_pos integer positive
    omega
  · intro bounded
    exact Int.emod_eq_of_lt bounded.1 bounded.2

end Wrapping

section Lists

end Lists

namespace Json

/-- The integer that a JSON integer stands for. -/
def integer? : Json → Option Int
  | .numberInteger value => some value.toInt
  | .numberUnsigned value => some value.toNat
  | _ => none

section Conversions

variable {library : DocumentLibrary}
variable {json : Json}
variable {integer : Int}

theorem integer?_eq_some_iff :
    json.integer? = some integer ↔
      (∃ value, json = .numberInteger value ∧ value.toInt = integer) ∨
        ∃ value, json = .numberUnsigned value ∧ value.toNat = integer := by
  cases json <;> simp [integer?]

/-- An unsigned integer, read as a signed one of its width. -/
theorem toInt_toInt64 (value : UInt64) :
    value.toInt64.toInt = (value.toNat : Int).bmod (2 ^ 64) :=
  BitVec.toInt_eq_toNat_bmod value.toBitVec

/-- A signed integer, read as an unsigned one of its width. -/
theorem toNat_toUInt64 (value : Int64) :
    (value.toUInt64.toNat : Int) = value.toInt % 2 ^ 64 := by
  have wrapped : value.toInt = (value.toUInt64.toNat : Int).bmod (2 ^ 64) :=
    BitVec.toInt_eq_toNat_bmod value.toBitVec
  have bounded : value.toUInt64.toNat < 2 ^ 64 := value.toUInt64.toNat_lt
  have reduced :
      (value.toUInt64.toNat : Int).bmod (2 ^ 64) % (2 ^ 64 : Nat) =
        (value.toUInt64.toNat : Int) % (2 ^ 64 : Nat) :=
    Int.bmod_emod
  rw [wrapped]
  omega

theorem toInt_getInt64
    {library : JsonLibrary}
    (isInteger : json.integer? = some integer)
    {value : Int64}
    (converted : json.getInt64 library = .ok value) :
    value.toInt = integer.bmod (2 ^ 64) := by
  rcases integer?_eq_some_iff.mp isInteger with
    ⟨signed, rfl, rfl⟩ | ⟨unsigned, rfl, rfl⟩
  · obtain rfl := Except.ok.inj converted
    simp
  · obtain rfl := Except.ok.inj converted
    exact toInt_toInt64 unsigned

theorem toNat_getUInt32
    {library : JsonLibrary}
    (isInteger : json.integer? = some integer)
    {value : UInt32}
    (converted : json.getUInt32 library = .ok value) :
    (value.toNat : Int) = integer % 2 ^ 32 := by
  rcases integer?_eq_some_iff.mp isInteger with
    ⟨signed, rfl, rfl⟩ | ⟨unsigned, rfl, rfl⟩
  · obtain rfl := Except.ok.inj converted
    have widened := toNat_toUInt64 signed
    rw [UInt64.toNat_toUInt32]
    omega
  · obtain rfl := Except.ok.inj converted
    rw [UInt64.toNat_toUInt32]
    omega

/-- JSON integers are converted without an exception. -/
theorem exists_getInt64_eq_ok
    {library : JsonLibrary}
    (isInteger : json.integer? = some integer) :
    ∃ value, json.getInt64 library = .ok value := by
  rcases integer?_eq_some_iff.mp isInteger with
    ⟨signed, rfl, -⟩ | ⟨unsigned, rfl, -⟩
  · exact ⟨_, rfl⟩
  · exact ⟨_, rfl⟩

theorem exists_getUInt32_eq_ok
    {library : JsonLibrary}
    (isInteger : json.integer? = some integer) :
    ∃ value, json.getUInt32 library = .ok value := by
  rcases integer?_eq_some_iff.mp isInteger with
    ⟨signed, rfl, -⟩ | ⟨unsigned, rfl, -⟩
  · exact ⟨_, rfl⟩
  · exact ⟨_, rfl⟩

/-- A conversion that is exact exactly for the integers of a range. -/
def ExactWithin
    {Target : Type}
    (get : Json → Except JsonException Target)
    (toInt : Target → Int)
    (low high : Int) : Prop :=
  ∀ {json integer value},
    json.integer? = some integer →
    get json = .ok value →
    (toInt value = integer ↔ low ≤ integer ∧ integer < high)

theorem getInt64_exactWithin {library : JsonLibrary} :
    ExactWithin (getInt64 library) Int64.toInt (-2 ^ 63) (2 ^ 63) := by
  intro json integer value isInteger converted
  rw [toInt_getInt64 isInteger converted]
  exact @bmod_eq_self_iff (2 ^ 63) (by decide) integer

theorem getUInt32_exactWithin {library : JsonLibrary} :
    ExactWithin (getUInt32 library) (fun value => value.toNat) 0
      (2 ^ 32) := by
  intro json integer value isInteger converted
  dsimp only
  rw [toNat_getUInt32 isInteger converted]
  exact emod_eq_self_iff (by decide) integer

end Conversions

section Members

variable {json : Json}
variable {key : Bytes}

/-- The integer under a key, if there is one, is in a range. -/
def GivesWithin (json : Json) (key : Bytes) (low high : Int) : Prop :=
  ∀ member integer,
    json.find? key = some member →
    member.integer? = some integer →
    low ≤ integer ∧ integer < high

end Members

end Json

end TgGate.Library
