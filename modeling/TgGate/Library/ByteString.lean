import Mathlib.Data.List.TakeWhile
import Mathlib.Data.Nat.Digits.Defs

namespace TgGate.Library

/-!
# C++ byte strings

A `std::string` is a finite sequence of arbitrary bytes: it may contain NUL
bytes and need not be valid UTF-8.  Literals are the UTF-8 bytes of the source
text.
-/

/-- The value of a `std::string` or `std::string_view`. -/
abbrev Bytes := List UInt8

/-- The bytes of a string literal. -/
def bytes (text : String) : Bytes :=
  text.toByteArray.data.toList

/-- Searching a list of texts. -/
instance (text : Bytes) (texts : List Bytes) :
    Decidable (text ∈ texts) :=
  List.instDecidableMemOfLawfulBEq text texts

/-- Distinct literals denote distinct byte strings. -/
@[simp] theorem bytes_inj {first second : String} :
    bytes first = bytes second ↔ first = second := by
  constructor
  · intro same
    apply String.toByteArray_inj.mp
    apply ByteArray.ext
    exact Array.toList_inj.mp same
  · rintro rfl
    rfl

/-- What a `%s` conversion reads through `c_str()`: up to the first NUL byte. -/
def cString (text : Bytes) : Bytes :=
  text.takeWhile (· ≠ 0)

/-- A C-string reader sees the whole text exactly when it has no NUL byte. -/
theorem cString_eq_self_iff {text : Bytes} :
    cString text = text ↔ 0 ∉ text := by
  unfold cString
  rw [List.takeWhile_eq_self_iff]
  constructor
  · intro nonzero member
    simpa using nonzero 0 member
  · intro absent byte member
    have byteNe : byte ≠ 0 := by
      rintro rfl
      exact absent member
    simpa using byteNe

/-- `std::tolower` in the C locale. -/
def toLower (character : UInt8) : UInt8 :=
  if 65 ≤ character ∧ character ≤ 90 then
    character + 32
  else
    character

/-- The decimal digits of a natural number, most significant first. -/
def decimalDigits (value : Nat) : Bytes :=
  if value = 0 then
    [48]
  else
    ((Nat.digits 10 value).map
      fun digit => UInt8.ofNat (48 + digit)).reverse

/-- `std::to_string` of a signed integer. -/
def toDecimal (value : Int) : Bytes :=
  if value < 0 then
    45 :: decimalDigits value.natAbs
  else
    decimalDigits value.natAbs

theorem zero_not_mem_decimalDigits (value : Nat) :
    0 ∉ decimalDigits value := by
  unfold decimalDigits
  split
  · decide
  · simp only [List.mem_reverse, List.mem_map, not_exists, not_and]
    intro digit member isZero
    have small : digit < 10 :=
      Nat.digits_lt_base (by decide) member
    have sameNat := congrArg UInt8.toNat isZero
    simp only [UInt8.toNat_ofNat', UInt8.toNat_zero] at sameNat
    omega

/-- A decimal rendering contains no NUL byte. -/
theorem zero_not_mem_toDecimal (value : Int) :
    0 ∉ toDecimal value := by
  unfold toDecimal
  split
  · simp [zero_not_mem_decimalDigits]
  · exact zero_not_mem_decimalDigits value.natAbs

end TgGate.Library
