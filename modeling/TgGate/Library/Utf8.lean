import TgGate.Library.ByteString
import Mathlib.Data.List.Basic

namespace TgGate.Library

/-!
# UTF-8 in byte strings

A byte string is valid if it is the encoding of a sequence of Unicode scalar
values.  Cutting a valid text leaves a valid text exactly if the cut does not
fall inside the encoding of a character, and byte-wise edits that leave the
bytes of longer encodings alone keep it valid.
-/

/-- The text encodes a sequence of characters. -/
def ValidUtf8 (text : Bytes) : Prop :=
  ∃ characters : List Char,
    text = characters.flatMap String.utf8EncodeChar

theorem validUtf8_iff_isValidUTF8 {text : Bytes} :
    ValidUtf8 text ↔ text.toByteArray.IsValidUTF8 := by
  constructor
  · rintro ⟨characters, rfl⟩
    exact ⟨characters, rfl⟩
  · rintro ⟨characters, encoded⟩
    refine ⟨characters, ?_⟩
    have sameData :=
      congrArg (fun array : ByteArray => array.data.toList) encoded
    simpa [List.utf8Encode] using sameData

instance (text : Bytes) : Decidable (ValidUtf8 text) :=
  decidable_of_iff _ validUtf8_iff_isValidUTF8.symm

theorem validUtf8_nil : ValidUtf8 [] :=
  ⟨[], rfl⟩

theorem validUtf8_encodeChar (character : Char) :
    ValidUtf8 (String.utf8EncodeChar character) :=
  ⟨[character], by simp⟩

theorem ValidUtf8.append
    {first second : Bytes}
    (firstValid : ValidUtf8 first)
    (secondValid : ValidUtf8 second) :
    ValidUtf8 (first ++ second) := by
  obtain ⟨characters, rfl⟩ := firstValid
  obtain ⟨others, rfl⟩ := secondValid
  exact ⟨characters ++ others, by simp⟩

theorem validUtf8_flatMap
    {Item : Type}
    {items : List Item}
    {text : Item → Bytes}
    (valid : ∀ item ∈ items, ValidUtf8 (text item)) :
    ValidUtf8 (items.flatMap text) := by
  induction items with
  | nil =>
      exact validUtf8_nil
  | cons item rest inductionHypothesis =>
      rw [List.flatMap_cons]
      exact (valid item List.mem_cons_self).append
        (inductionHypothesis fun other member =>
          valid other (List.mem_cons_of_mem _ member))

/-- String literals are valid. -/
theorem validUtf8_bytes (text : String) : ValidUtf8 (bytes text) := by
  rw [validUtf8_iff_isValidUTF8]
  have same : (bytes text).toByteArray = text.toByteArray := by
    apply ByteArray.ext
    simp [bytes]
  rw [same]
  exact text.isValidUTF8

/-- The first character of an encoding is determined by its bytes. -/
theorem encodeChar_append_inj
    {first second : Char}
    {rest other : Bytes}
    (same :
      String.utf8EncodeChar first ++ rest =
        String.utf8EncodeChar second ++ other) :
    first = second := by
  have decoded (character : Char) (rest : Bytes) :
      ((String.utf8EncodeChar character ++
          rest).toByteArray).utf8DecodeChar? 0 =
        some character := by
    rw [List.toByteArray_append]
    exact ByteArray.utf8DecodeChar?_utf8EncodeChar_append
  have both := decoded first rest
  rw [same, decoded second other] at both
  exact (Option.some.inj both).symm

theorem validUtf8_encodeChar_append_iff
    {character : Char}
    {rest : Bytes} :
    ValidUtf8 (String.utf8EncodeChar character ++ rest) ↔
      ValidUtf8 rest := by
  constructor
  · rintro ⟨_ | ⟨head, characters⟩, encoded⟩
    · simp at encoded
    · rw [List.flatMap_cons] at encoded
      obtain rfl := encodeChar_append_inj encoded
      exact ⟨characters, List.append_cancel_left encoded⟩
  · exact (validUtf8_encodeChar character).append

/-- A proper part of an encoding is not valid. -/
theorem not_validUtf8_take_encodeChar
    {character : Char}
    {length : Nat}
    (nonempty : 0 < length)
    (partly : length < (String.utf8EncodeChar character).length) :
    ¬ ValidUtf8 ((String.utf8EncodeChar character).take length) := by
  rintro ⟨_ | ⟨head, characters⟩, encoded⟩
  · have short := congrArg List.length encoded
    simp only [List.length_take, List.flatMap_nil,
      List.length_nil] at short
    omega
  · rw [List.flatMap_cons] at encoded
    have whole :
        String.utf8EncodeChar character ++ [] =
          String.utf8EncodeChar head ++
            (characters.flatMap String.utf8EncodeChar ++
              (String.utf8EncodeChar character).drop length) := by
      rw [← List.append_assoc, ← encoded, List.take_append_drop,
        List.append_nil]
    obtain rfl := encodeChar_append_inj whole
    have short := congrArg List.length encoded
    simp only [List.length_take, List.length_append] at short
    omega

/-- Cutting keeps a text valid exactly if the rest begins a character. -/
theorem validUtf8_take_iff
    {text : Bytes}
    (valid : ValidUtf8 text)
    (length : Nat) :
    ValidUtf8 (text.take length) ↔
      ∀ byte ∈ text[length]?, byte.IsUTF8FirstByte := by
  obtain ⟨characters, rfl⟩ := valid
  induction characters generalizing length with
  | nil =>
      simp [validUtf8_nil]
  | cons character rest inductionHypothesis =>
      rw [List.flatMap_cons]
      by_cases inside :
          length < (String.utf8EncodeChar character).length
      · rw [List.take_append_of_le_length (Nat.le_of_lt inside),
          List.getElem?_append_left inside,
          List.getElem?_eq_getElem inside]
        simp only [Option.mem_def, Option.some.injEq, forall_eq',
          UInt8.isUTF8FirstByte_getElem_utf8EncodeChar]
        rcases Nat.eq_zero_or_pos length with rfl | nonempty
        · simp [validUtf8_nil]
        · exact iff_of_false
            (not_validUtf8_take_encodeChar nonempty inside)
            (Nat.ne_of_gt nonempty)
      · have beyond := Nat.not_lt.mp inside
        rw [List.take_append, List.take_of_length_le beyond,
          validUtf8_encodeChar_append_iff, inductionHypothesis,
          List.getElem?_append_right beyond]

/-- Appending a valid text does not make an invalid one valid. -/
theorem validUtf8_append_iff
    {first second : Bytes}
    (secondValid : ValidUtf8 second) :
    ValidUtf8 (first ++ second) ↔ ValidUtf8 first := by
  refine ⟨fun valid => ?_, fun valid => valid.append secondValid⟩
  have begins :
      ∀ byte ∈ (first ++ second)[first.length]?,
        byte.IsUTF8FirstByte := by
    rw [List.getElem?_append_right (Nat.le_refl _), Nat.sub_self]
    exact (validUtf8_take_iff secondValid 0).mp
      (by simpa using validUtf8_nil)
  simpa using (validUtf8_take_iff valid first.length).mpr begins

/-- An encoding is one ASCII byte or has none. -/
theorem encodeChar_cases (character : Char) :
    (∃ byte : UInt8,
        byte < 0x80 ∧ String.utf8EncodeChar character = [byte]) ∨
      ∀ byte ∈ String.utf8EncodeChar character, 0x80 ≤ byte := by
  fun_cases String.utf8EncodeChar character with
  | case1 value ascii =>
      refine .inl ⟨_, ?_, rfl⟩
      rw [UInt8.lt_iff_toNat_lt, UInt8.toNat_ofNat']
      exact Nat.lt_of_le_of_lt (Nat.mod_le _ _) (Nat.lt_succ_of_le ascii)
  | case2 value | case3 value | case4 value =>
      right
      simp only [List.mem_cons, List.not_mem_nil, or_false,
        forall_eq_or_imp, forall_eq, UInt8.le_iff_toNat_le,
        UInt8.toNat_ofNat']
      refine ⟨?_, ?_⟩ <;> simp <;> omega

/-- An ASCII byte encodes a character. -/
theorem validUtf8_singleton
    {byte : UInt8}
    (ascii : byte < 0x80) :
    ValidUtf8 [byte] := by
  have bound : byte.toNat ≤ 127 := by
    have small := UInt8.lt_iff_toNat_lt.mp ascii
    simpa using Nat.le_of_lt_succ small
  have codePoint : (Char.ofUInt8 byte).val.toNat = byte.toNat := rfl
  refine ⟨[Char.ofUInt8 byte], ?_⟩
  simp [String.utf8EncodeChar, codePoint, bound]

/-- A sequence of ASCII bytes. -/
theorem validUtf8_of_ascii
    {text : Bytes}
    (ascii : ∀ byte ∈ text, byte < 0x80) :
    ValidUtf8 text := by
  have apart : text = text.flatMap fun byte => [byte] := by
    simp
  rw [apart]
  exact validUtf8_flatMap fun byte member =>
    validUtf8_singleton (ascii byte member)

/--
Replacing ASCII bytes by ASCII texts, and leaving all other bytes alone, keeps
a text valid.
-/
theorem ValidUtf8.flatMap_bytes
    {text : Bytes}
    (valid : ValidUtf8 text)
    {replace : UInt8 → Bytes}
    (ascii :
      ∀ byte < 0x80, ∀ replaced ∈ replace byte, replaced < 0x80)
    (others : ∀ byte, 0x80 ≤ byte → replace byte = [byte]) :
    ValidUtf8 (text.flatMap replace) := by
  obtain ⟨characters, rfl⟩ := valid
  rw [List.flatMap_assoc]
  refine validUtf8_flatMap fun character _ => ?_
  rcases encodeChar_cases character with ⟨byte, small, encoded⟩ | large
  · rw [encoded, List.flatMap_singleton]
    exact validUtf8_of_ascii (ascii byte small)
  · have unchanged :
        (String.utf8EncodeChar character).flatMap replace =
          (String.utf8EncodeChar character).flatMap
            fun byte => [byte] :=
      List.flatMap_congr fun byte member => others byte (large byte member)
    rw [unchanged]
    simpa using validUtf8_encodeChar character

/-- Filtering replaces each byte by itself or by nothing. -/
theorem filter_eq_flatMap (keep : UInt8 → Bool) (text : Bytes) :
    text.filter keep =
      text.flatMap fun byte => if keep byte then [byte] else [] := by
  induction text with
  | nil =>
      rfl
  | cons byte rest inductionHypothesis =>
      rw [List.flatMap_cons, ← inductionHypothesis]
      cases kept : keep byte <;>
        simp [kept]

/-- Dropping ASCII bytes keeps a text valid. -/
theorem ValidUtf8.filter
    {text : Bytes}
    (valid : ValidUtf8 text)
    {keep : UInt8 → Bool}
    (others : ∀ byte, 0x80 ≤ byte → keep byte = true) :
    ValidUtf8 (text.filter keep) := by
  rw [filter_eq_flatMap]
  refine valid.flatMap_bytes ?_ ?_
  · intro byte small replaced member
    split at member
    · rw [List.mem_singleton.mp member]
      exact small
    · cases member
  · intro byte large
    rw [if_pos (others byte large)]

end TgGate.Library
