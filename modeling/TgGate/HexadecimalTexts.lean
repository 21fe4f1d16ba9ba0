import TgGate.Library.HexPairs

namespace TgGate

open Library

/-!
# Hexadecimal texts

`hex_decode` checks that its text has pieces of two characters and that the
stream reads each of them, but not that the stream read both characters.  It
therefore accepts more than hexadecimal texts: a stray piece such as a digit
and a letter beyond F is read as the digit alone.
-/

/-- A nonempty sequence of pairs of hexadecimal digits. -/
structure IsHexadecimal (text : Bytes) : Prop where
  nonempty : text ≠ []
  even : text.length % 2 = 0
  digits : ∀ character ∈ text, isXDigit character = true

/-- A text is decoded if it is hexadecimal, and to what it stands for. -/
structure DecodesExactly (text : Bytes) : Prop where
  accepts : (hexDecode text).isSome = true ↔ IsHexadecimal text
  encodes :
    ∀ content,
      hexDecode text = some content →
      hexEncode content = text.map toLower

/-- All pieces are digits or stray pieces, and there is a stray one. -/
structure HasStrayPieces (text : Bytes) : Prop where
  nonempty : text ≠ []
  even : text.length % 2 = 0
  readable :
    ∀ piece ∈ pieces text,
      isDigitPair piece.1 piece.2 = true ∨
        isStrayPair piece.1 piece.2 = true
  stray : ∃ piece ∈ pieces text, isStrayPair piece.1 piece.2 = true

section Decoding

variable {text : Bytes}

/-- What is decoded: pieces of digits and stray pieces. -/
theorem isSome_hexDecode_iff :
    (hexDecode text).isSome = true ↔
      text ≠ [] ∧ text.length % 2 = 0 ∧
        ∀ piece ∈ pieces text,
          isDigitPair piece.1 piece.2 = true ∨
            isStrayPair piece.1 piece.2 = true := by
  unfold hexDecode
  split
  · next refused =>
      simp only [Option.isSome_none, Bool.false_eq_true, false_iff]
      rintro ⟨nonempty, even, -⟩
      simp [nonempty, even] at refused
  · next accepted =>
      simp only [Bool.or_eq_true, List.isEmpty_iff, decide_eq_true_eq,
        not_or, ne_eq, Decidable.not_not] at accepted
      simp only [isSome_decodePairs_iff, readsByte_eq, Bool.or_eq_true,
        accepted, ne_eq, not_false_eq_true, true_and]

/-- A hexadecimal text is decoded. -/
theorem IsHexadecimal.decodes (hexadecimal : IsHexadecimal text) :
    (hexDecode text).isSome = true := by
  have pairs := (all_isXDigit_iff hexadecimal.even).mp hexadecimal.digits
  exact isSome_hexDecode_iff.mpr ⟨hexadecimal.nonempty, hexadecimal.even,
    fun piece member => .inl (pairs piece member)⟩

/-- Its bytes are written as the text in lower case. -/
theorem IsHexadecimal.encodes
    (hexadecimal : IsHexadecimal text)
    {content : Bytes}
    (decoded : hexDecode text = some content) :
    hexEncode content = text.map toLower := by
  unfold hexDecode at decoded
  split at decoded
  · cases decoded
  · exact hexEncode_of_decodePairs hexadecimal.even hexadecimal.digits
      decoded

end Decoding

/-- A text is decoded exactly unless stray pieces in it are read. -/
theorem decodesExactly_iff (text : Bytes) :
    DecodesExactly text ↔ ¬ HasStrayPieces text := by
  constructor
  · intro exact stray
    obtain ⟨piece, member, isStray⟩ := stray.stray
    have hexadecimal :=
      exact.accepts.mp
        (isSome_hexDecode_iff.mpr
          ⟨stray.nonempty, stray.even, stray.readable⟩)
    have digits :=
      (all_isXDigit_iff hexadecimal.even).mp hexadecimal.digits piece
        member
    rw [isDigitPair_of_isStrayPair isStray] at digits
    cases digits
  · intro noStray
    have hexadecimal_of_isSome :
        (hexDecode text).isSome = true → IsHexadecimal text := by
      intro accepted
      obtain ⟨nonempty, even, readable⟩ :=
        isSome_hexDecode_iff.mp accepted
      refine ⟨nonempty, even, (all_isXDigit_iff even).mpr ?_⟩
      intro piece member
      rcases readable piece member with digits | isStray
      · exact digits
      · exact absurd ⟨nonempty, even, readable, piece, member, isStray⟩
          noStray
    refine ⟨⟨hexadecimal_of_isSome, IsHexadecimal.decodes⟩, ?_⟩
    intro content decoded
    exact (hexadecimal_of_isSome (by rw [decoded]; rfl)).encodes decoded

/-- A digit and a letter beyond F are read as the digit alone. -/
theorem not_decodesExactly_stray :
    ¬ DecodesExactly (bytes "0g") := by
  intro exact
  have hexadecimal := exact.accepts.mp (by decide)
  exact absurd hexadecimal.digits (by decide)

end TgGate
