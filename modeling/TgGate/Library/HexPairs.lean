import TgGate.Library.Hex

namespace TgGate.Library

/-!
# What is read from two characters

`operator>>` reads more than two hexadecimal digits from a piece of two
characters: white space and a sign are skipped, and whatever follows the digits
is left unread.  `isStrayPair` lists the pieces that give a byte without being
two digits.  Nothing else does, and two digits give back their byte.
-/

/-- A piece of two hexadecimal digits. -/
def isDigitPair (first second : UInt8) : Bool :=
  isXDigit first && isXDigit second

/-- A piece that is read as a byte although it is not two digits. -/
def isStrayPair (first second : UInt8) : Bool :=
  -- White space or a plus sign before a digit.
  ((isWhitespace first || first = 43) && isXDigit second) ||
    -- A minus sign negates modulo the width, so only zero is small.
    (first = 45 && second = 48) ||
    -- A digit before another character, except for an empty `0x` number.
    (isXDigit first && !isXDigit second &&
      !(first = 48 && (second = 120 || second = 88)))

/-- A piece is read as a number that fits a byte. -/
def readsByte (first second : UInt8) : Bool :=
  (readHexUnsigned [first, second]).any (· ≤ 0xff)

/-- The pieces of a text, without a last odd character. -/
def pieces : Bytes → List (UInt8 × UInt8)
  | first :: second :: rest => (first, second) :: pieces rest
  | _ => []

/-- What holds of all codes holds of all bytes. -/
@[elab_as_elim] theorem forall_byte
    {property : UInt8 → Prop}
    (codes : ∀ code < 256, property (UInt8.ofNat code))
    (byte : UInt8) :
    property byte := by
  have sameCode := codes byte.toNat byte.toNat_lt
  rwa [UInt8.ofNat_toNat] at sameCode

section Digits

variable {character : UInt8}

/-- The table of the single characters: a digit has a value below sixteen, from
which its lower-case form is written, and is no white space and no sign. -/
theorem isXDigit_table (character : UInt8) :
    (isXDigit character = true →
      digitValue character < 16 ∧
        hexCharacter (digitValue character) = toLower character ∧
        isWhitespace character = false ∧ character ≠ 43 ∧
        character ≠ 45) ∧
      readHexUnsigned [character] =
        if isXDigit character then some (digitValue character) else none :=
  forall_byte (by decide +kernel) character

theorem digitValue_lt (isDigit : isXDigit character = true) :
    digitValue character < 16 :=
  ((isXDigit_table character).1 isDigit).1

/-- The digit of a value is the lower-case form of the digit it is read from. -/
theorem hexCharacter_digitValue (isDigit : isXDigit character = true) :
    hexCharacter (digitValue character) = toLower character :=
  ((isXDigit_table character).1 isDigit).2.1

/-- A digit is no white space and no sign. -/
theorem isXDigit_disjoint (isDigit : isXDigit character = true) :
    isWhitespace character = false ∧ character ≠ 43 ∧ character ≠ 45 :=
  ((isXDigit_table character).1 isDigit).2.2

/-- What may stand in front of a digit is none. -/
theorem not_isXDigit_of_isWhitespace
    (space : isWhitespace character = true) :
    isXDigit character = false := by
  rw [← Bool.not_eq_true]
  intro isDigit
  rw [(isXDigit_disjoint isDigit).1] at space
  exact Bool.false_ne_true space

/-- A single character is read if it is a digit. -/
theorem readHexUnsigned_singleton :
    readHexUnsigned [character] =
      if isXDigit character then some (digitValue character) else none :=
  (isXDigit_table character).2

end Digits

section Pieces

variable {first second : UInt8}

/-- White space in front is skipped. -/
theorem readHexUnsigned_of_isWhitespace
    (space : isWhitespace first = true) :
    readHexUnsigned [first, second] = readHexUnsigned [second] := by
  simp [readHexUnsigned, List.dropWhile_cons, space]

theorem readSign_of_other
    (notPlus : first ≠ 43)
    (notMinus : first ≠ 45)
    (rest : Bytes) :
    readSign (first :: rest) = (false, first :: rest) := by
  unfold readSign
  split
  · next same => exact absurd (List.cons.inj same).1 notPlus
  · next same => exact absurd (List.cons.inj same).1 notMinus
  · rfl

theorem dropHexPrefix_pair :
    dropHexPrefix [first, second] =
      if first = 48 ∧ (second = 120 ∨ second = 88) then
        []
      else
        [first, second] := by
  unfold dropHexPrefix
  split
  · next same =>
      obtain ⟨rfl, rfl, rfl⟩ : first = 48 ∧ second = 120 ∧ _ = [] := by
        simpa using same
      rfl
  · next same =>
      obtain ⟨rfl, rfl, rfl⟩ : first = 48 ∧ second = 88 ∧ _ = [] := by
        simpa using same
      rfl
  · next notLower notUpper =>
      rw [if_neg]
      rintro ⟨rfl, rfl | rfl⟩
      · exact notLower [] rfl
      · exact notUpper [] rfl

/-- Without white space or a sign the digits are read as they stand. -/
theorem readHexUnsigned_of_other
    (notSpace : isWhitespace first = false)
    (notPlus : first ≠ 43)
    (notMinus : first ≠ 45) :
    readHexUnsigned [first, second] =
      if isXDigit first = false ∨
          first = 48 ∧ (second = 120 ∨ second = 88) then
        none
      else if isXDigit second then
        some (16 * digitValue first + digitValue second)
      else
        some (digitValue first) := by
  have kept :
      List.dropWhile isWhitespace [first, second] = [first, second] := by
    simp [notSpace]
  unfold readHexUnsigned
  rw [kept, readSign_of_other notPlus notMinus]
  dsimp only
  rw [dropHexPrefix_pair]
  by_cases isPrefix : first = 48 ∧ (second = 120 ∨ second = 88)
  · simp [isPrefix]
  · cases firstDigit : isXDigit first with
    | false =>
        simp [isPrefix, firstDigit]
    | true =>
        have firstSmall := digitValue_lt firstDigit
        cases secondDigit : isXDigit second with
        | false =>
            have bounded : digitValue first < 4294967296 := by
              omega
            simp [isPrefix, firstDigit, secondDigit, bounded]
        | true =>
            have secondSmall := digitValue_lt secondDigit
            have bounded :
                16 * digitValue first + digitValue second <
                  4294967296 := by
              omega
            simp [isPrefix, firstDigit, secondDigit, bounded]

/-- Two digits are read as the byte that they write. -/
theorem readHexUnsigned_of_isDigitPair
    (digits : isDigitPair first second = true) :
    readHexUnsigned [first, second] =
      some (16 * digitValue first + digitValue second) := by
  rw [isDigitPair, Bool.and_eq_true] at digits
  obtain ⟨notSpace, notPlus, notMinus⟩ := isXDigit_disjoint digits.1
  rw [readHexUnsigned_of_other notSpace notPlus notMinus, if_neg,
    if_pos digits.2]
  rintro (noDigit | ⟨-, rfl | rfl⟩)
  · rw [digits.1] at noDigit
    cases noDigit
  · exact absurd digits.2 (by decide)
  · exact absurd digits.2 (by decide)

theorem readsByte_of_isWhitespace
    (space : isWhitespace first = true) :
    readsByte first second =
      (isDigitPair first second || isStrayPair first second) := by
  have noDigit := not_isXDigit_of_isWhitespace space
  have notMinus : first ≠ 45 := by
    rintro rfl
    exact absurd space (by decide)
  rw [readsByte, readHexUnsigned_of_isWhitespace space,
    readHexUnsigned_singleton]
  cases digit : isXDigit second with
  | false =>
      simp [isDigitPair, isStrayPair, noDigit, notMinus, digit]
  | true =>
      have small : digitValue second ≤ 255 := by
        have bounded := digitValue_lt digit
        omega
      simp [isDigitPair, isStrayPair, space, noDigit, digit, small]

theorem readsByte_of_other
    (notSpace : isWhitespace first = false)
    (notPlus : first ≠ 43)
    (notMinus : first ≠ 45) :
    readsByte first second =
      (isDigitPair first second || isStrayPair first second) := by
  cases firstDigit : isXDigit first with
  | false =>
      rw [readsByte, readHexUnsigned_of_other notSpace notPlus notMinus]
      simp [isDigitPair, isStrayPair, firstDigit, notSpace, notPlus,
        notMinus]
  | true =>
      have firstSmall := digitValue_lt firstDigit
      cases secondDigit : isXDigit second with
      | true =>
          have pair : isDigitPair first second = true := by
            simp [isDigitPair, firstDigit, secondDigit]
          have secondSmall := digitValue_lt secondDigit
          have small :
              16 * digitValue first + digitValue second ≤ 255 := by
            omega
          rw [readsByte, readHexUnsigned_of_isDigitPair pair, pair]
          simp [small]
      | false =>
          have small : digitValue first ≤ 255 := by
            omega
          rw [readsByte, readHexUnsigned_of_other notSpace notPlus notMinus]
          by_cases isPrefix : first = 48 ∧ (second = 120 ∨ second = 88)
          · rcases isPrefix with ⟨rfl, rfl | rfl⟩ <;> decide
          · have apart :
                (first = 48 && (second = 120 || second = 88)) = false := by
              simpa [imp_iff_not_or] using isPrefix
            simp [isDigitPair, isStrayPair, isPrefix, firstDigit,
              secondDigit, apart, small]

/-- A piece gives a byte exactly if it is two digits or a stray piece. -/
theorem readsByte_eq (first second : UInt8) :
    readsByte first second =
      (isDigitPair first second || isStrayPair first second) := by
  by_cases space : isWhitespace first = true
  · exact readsByte_of_isWhitespace space
  · by_cases isPlus : first = 43
    · subst isPlus
      exact forall_byte (by decide +kernel) second
    · by_cases isMinus : first = 45
      · subst isMinus
        exact forall_byte (by decide +kernel) second
      · exact readsByte_of_other (Bool.eq_false_of_not_eq_true space)
          isPlus isMinus

theorem isDigitPair_of_isStrayPair
    (stray : isStrayPair first second = true) :
    isDigitPair first second = false := by
  cases firstDigit : isXDigit first with
  | false =>
      simp [isDigitPair, firstDigit]
  | true =>
      obtain ⟨notSpace, notPlus, notMinus⟩ := isXDigit_disjoint firstDigit
      simp only [isStrayPair, notSpace, notPlus, notMinus, firstDigit,
        decide_false, Bool.or_self, Bool.false_and, Bool.false_or,
        Bool.true_and, Bool.and_eq_true, Bool.not_eq_true'] at stray
      simp [isDigitPair, stray.1]

end Pieces

section Texts

/-- What is written are digits. -/
theorem isXDigit_of_mem_hexEncode
    {content : Bytes}
    {character : UInt8}
    (member : character ∈ hexEncode content) :
    isXDigit character = true := by
  have written :
      ∀ value < 16, isXDigit (hexCharacter value) = true := by
    decide +kernel
  obtain ⟨byte, -, inPair⟩ := List.mem_flatMap.mp member
  have bound := byte.toNat_lt
  simp only [List.mem_cons, List.not_mem_nil, or_false] at inPair
  rcases inPair with rfl | rfl
  · exact written _ (by omega)
  · exact written _ (by omega)

theorem hexEncode_injective
    {first second : Bytes}
    (same : hexEncode first = hexEncode second) :
    first = second := by
  have decoded := decodePairs_hexEncode first
  rw [same, decodePairs_hexEncode] at decoded
  exact (Option.some.inj decoded).symm

/-- A text is decoded if every piece of it gives a byte. -/
theorem isSome_decodePairs_iff (text : Bytes) :
    (decodePairs text).isSome = true ↔
      ∀ piece ∈ pieces text, readsByte piece.1 piece.2 = true := by
  induction text using pieces.induct with
  | case1 first second rest inductionHypothesis =>
      rw [pieces, List.forall_mem_cons, ← inductionHypothesis, decodePairs]
      unfold readsByte
      cases readHexUnsigned [first, second] with
      | none =>
          simp
      | some byte =>
          by_cases large : byte > 0xff
          · have notSmall : ¬ byte ≤ 0xff := by
              omega
            simp [large, notSmall]
          · have small : byte ≤ 0xff := by
              omega
            simp [large, small]
  | case2 text short =>
      simp [pieces, decodePairs]

/-- The characters of a text of even length are those of its pieces. -/
theorem all_isXDigit_iff
    {text : Bytes}
    (even : text.length % 2 = 0) :
    (∀ character ∈ text, isXDigit character = true) ↔
      ∀ piece ∈ pieces text, isDigitPair piece.1 piece.2 = true := by
  induction text using pieces.induct with
  | case1 first second rest inductionHypothesis =>
      have restEven : rest.length % 2 = 0 := by
        simp only [List.length_cons] at even
        omega
      rw [pieces, List.forall_mem_cons, List.forall_mem_cons,
        List.forall_mem_cons, inductionHypothesis restEven, isDigitPair,
        Bool.and_eq_true, and_assoc]
  | case2 text short =>
      have empty : text = [] := by
        rcases text with _ | ⟨first, _ | ⟨second, rest⟩⟩
        · rfl
        · cases even
        · exact absurd rfl (short first second rest)
      simp [empty, pieces]

/-- Digits are decoded to the bytes that they write in lower case. -/
theorem hexEncode_of_decodePairs
    {text content : Bytes}
    (even : text.length % 2 = 0)
    (digits : ∀ character ∈ text, isXDigit character = true)
    (decoded : decodePairs text = some content) :
    hexEncode content = text.map toLower := by
  induction text using pieces.induct generalizing content with
  | case1 first second rest inductionHypothesis =>
      simp only [List.forall_mem_cons] at digits
      obtain ⟨firstDigit, secondDigit, restDigits⟩ := digits
      have restEven : rest.length % 2 = 0 := by
        simp only [List.length_cons] at even
        omega
      have pair : isDigitPair first second = true := by
        simp [isDigitPair, firstDigit, secondDigit]
      have firstSmall := digitValue_lt firstDigit
      have secondSmall := digitValue_lt secondDigit
      have small :
          ¬ 16 * digitValue first + digitValue second > 0xff := by
        omega
      rw [decodePairs, readHexUnsigned_of_isDigitPair pair] at decoded
      simp only [small, ↓reduceIte] at decoded
      obtain ⟨others, restDecoded, rfl⟩ := Option.map_eq_some_iff.mp decoded
      have byteValue :
          (UInt8.ofNat
            (16 * digitValue first + digitValue second)).toNat =
            16 * digitValue first + digitValue second := by
        rw [UInt8.toNat_ofNat', Nat.mod_eq_of_lt (by omega)]
      have high :
          (16 * digitValue first + digitValue second) / 16 =
            digitValue first := by
        omega
      have low :
          (16 * digitValue first + digitValue second) % 16 =
            digitValue second := by
        omega
      rw [hexEncode_cons, byteValue, high, low,
        hexCharacter_digitValue firstDigit,
        hexCharacter_digitValue secondDigit,
        inductionHypothesis restEven restDigits restDecoded]
      rfl
  | case2 text short =>
      rcases text with _ | ⟨first, _ | ⟨second, rest⟩⟩
      · obtain rfl := Option.some.inj decoded
        rfl
      · cases even
      · exact absurd rfl (short first second rest)

end Texts

end TgGate.Library
