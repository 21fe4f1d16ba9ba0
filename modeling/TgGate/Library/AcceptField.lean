import Mathlib.Algebra.Order.Ring.Rat
import Mathlib.Tactic.Linarith
import Mathlib.Tactic.Positivity
import TgGate.Library.ByteString
import TgGate.Library.TrimmedParts

namespace TgGate.Library

/-!
# The grammar of the Accept field

The abstract syntax of an HTTP `Accept` value and the text of each of its
parts: media ranges separated by commas, each with parameters separated by
semicolons.  A parameter value is a token or a quoted string, the parameter
`q` is a weight between zero and one with at most three decimals, and optional
white space may stand around every separator.
-/

/-- Blanks and tabs. -/
structure OptionalSpace where
  text : Bytes
  blank : ∀ byte ∈ text, byte = 32 ∨ byte = 9

/-- No white space. -/
def OptionalSpace.none : OptionalSpace :=
  ⟨[], by simp⟩

/-- Letters, digits and the punctuation that is no delimiter. -/
def isTokenCharacter (byte : UInt8) : Bool :=
  (48 ≤ byte && byte ≤ 57) || (65 ≤ byte && byte ≤ 90) ||
    (97 ≤ byte && byte ≤ 122) ||
    [33, 35, 36, 37, 38, 39, 42, 43, 45, 46, 94, 95, 96, 124,
      126].contains byte

/-- A nonempty run of token characters. -/
structure Token where
  text : Bytes
  nonempty : text ≠ []
  characters : text.all isTokenCharacter = true

/-- Token characters are printable. -/
theorem printable_of_isTokenCharacter
    {byte : UInt8}
    (isToken : isTokenCharacter byte = true) :
    33 ≤ byte.toNat := by
  simp only [isTokenCharacter, Bool.or_eq_true, Bool.and_eq_true,
    decide_eq_true_eq, List.contains_iff_mem,
    UInt8.le_iff_toNat_le] at isToken
  rcases isToken with ((digit | upper) | lower) | other
  · simp only [UInt8.reduceToNat] at digit
    omega
  · simp only [UInt8.reduceToNat] at upper
    omega
  · simp only [UInt8.reduceToNat] at lower
    omega
  · have every :
        ∀ mark ∈
          ([33, 35, 36, 37, 38, 39, 42, 43, 45, 46, 94, 95, 96, 124,
            126] : Bytes),
          33 ≤ mark.toNat := by
      decide +kernel
    exact every byte other

/-- What stands unescaped between quotes: no quote and no backslash. -/
def isQuotedText (byte : UInt8) : Bool :=
  byte = 9 || (32 ≤ byte && byte ≤ 126 && byte ≠ 34 && byte ≠ 92) ||
    128 ≤ byte

/-- What may follow a backslash. -/
def isEscapable (byte : UInt8) : Bool :=
  byte = 9 || (32 ≤ byte && byte ≤ 126) || 128 ≤ byte

/-- One character of a quoted string. -/
inductive QuotedCharacter where
  | plain (byte : UInt8) (isPlain : isQuotedText byte = true)
  | escaped (byte : UInt8) (isEscaped : isEscapable byte = true)

def QuotedCharacter.text : QuotedCharacter → Bytes
  | .plain byte _ => [byte]
  | .escaped byte _ => [92, byte]

/-- The value of a parameter. -/
inductive ParameterValue where
  | token (value : Token)
  | quoted (characters : List QuotedCharacter)

def ParameterValue.text : ParameterValue → Bytes
  | .token value => value.text
  | .quoted characters =>
      34 :: (characters.flatMap QuotedCharacter.text ++ [34])

/-- A number from zero to one. -/
structure Decimal where
  isOne : Bool
  decimals : Option (List (Fin 10))
  atMostOne :
    isOne = true → ∀ digits ∈ decimals, ∀ digit ∈ digits, digit = 0

namespace Decimal

/-- The byte of a decimal digit. -/
def digitByte (digit : Fin 10) : UInt8 :=
  48 + UInt8.ofNat digit.val

/-- The digit before the point. -/
def integralByte (decimal : Decimal) : UInt8 :=
  if decimal.isOne then 49 else 48

def text (decimal : Decimal) : Bytes :=
  decimal.integralByte ::
    match decimal.decimals with
    | .none => []
    | .some digits => 46 :: digits.map digitByte

theorem text_ne_nil (decimal : Decimal) : decimal.text ≠ [] :=
  List.cons_ne_nil _ _

/-- The number that digits after a point denote. -/
def fractionValue : List (Fin 10) → ℚ
  | [] => 0
  | digit :: rest => (digit.val + fractionValue rest) / 10

/-- The number that a decimal denotes. -/
def value (decimal : Decimal) : ℚ :=
  (if decimal.isOne then 1 else 0) +
    fractionValue (decimal.decimals.getD [])

/-- A point without decimals. -/
def EndsInPoint (decimal : Decimal) : Prop :=
  decimal.decimals = some []

theorem fractionValue_cons
    (digit : Fin 10)
    (rest : List (Fin 10)) :
    fractionValue (digit :: rest) =
      (digit.val + fractionValue rest) / 10 :=
  rfl

theorem fractionValue_nonneg (digits : List (Fin 10)) :
    0 ≤ fractionValue digits := by
  induction digits with
  | nil =>
      rfl
  | cons digit rest inductionHypothesis =>
      rw [fractionValue_cons]
      exact div_nonneg
        (add_nonneg (Nat.cast_nonneg _) inductionHypothesis)
        (by norm_num)

/-- Decimals are worth something exactly if one of them is not zero. -/
theorem fractionValue_pos_iff {digits : List (Fin 10)} :
    0 < fractionValue digits ↔ ∃ digit ∈ digits, digit ≠ 0 := by
  induction digits with
  | nil =>
      simp [fractionValue]
  | cons digit rest inductionHypothesis =>
      have nonneg := fractionValue_nonneg rest
      simp only [List.mem_cons, exists_eq_or_imp, ← inductionHypothesis]
      rw [fractionValue_cons]
      by_cases isZero : digit = 0
      · subst isZero
        simp [div_pos_iff_of_pos_right]
      · have positive : (0 : ℚ) < digit.val := by
          exact_mod_cast Nat.pos_of_ne_zero (Fin.val_ne_zero_iff.mpr isZero)
        simp only [ne_eq, isZero, not_false_eq_true, true_or, iff_true]
        exact div_pos (by linarith) (by norm_num)

/-- A decimal is positive exactly if one of its digits is not zero. -/
theorem value_pos_iff {decimal : Decimal} :
    0 < decimal.value ↔
      decimal.isOne = true ∨
        ∃ digit ∈ decimal.decimals.getD [], digit ≠ 0 := by
  have nonneg := fractionValue_nonneg (decimal.decimals.getD [])
  rw [← fractionValue_pos_iff]
  unfold value
  cases decimal.isOne with
  | true =>
      simp
      linarith
  | false =>
      simp

end Decimal

/-- A number from zero to one with at most three decimals. -/
structure Weight extends Decimal where
  short : ∀ digits ∈ decimals, digits.length ≤ 3

/-- One parameter; the one called `q` is the weight, in either case. -/
inductive Parameter where
  | named
      (name : Token)
      (value : ParameterValue)
      (ordinary : name.text.map toLower ≠ bytes "q")
  | weight (isUpper : Bool) (quality : Weight)

def Parameter.text : Parameter → Bytes
  | .named name value _ => name.text ++ 61 :: value.text
  | .weight isUpper quality =>
      (if isUpper then 81 else 113) :: 61 :: quality.text

/-- A type and a subtype. -/
structure MediaType where
  type : Token
  subtype : Token

def MediaType.text (mediaType : MediaType) : Bytes :=
  mediaType.type.text ++ 47 :: mediaType.subtype.text

/-- The same type and subtype, ignoring case. -/
def MediaType.Names (mediaType expected : MediaType) : Prop :=
  mediaType.text.map toLower = expected.text.map toLower

/-- Something with white space around it. -/
structure Padded (Content : Type) where
  before : OptionalSpace
  content : Content
  after : OptionalSpace

def Padded.text
    {Content : Type}
    (render : Content → Bytes)
    (padded : Padded Content) : Bytes :=
  padded.before.text ++ render padded.content ++ padded.after.text

/-- Something without white space around it. -/
def unpadded {Content : Type} (content : Content) : Padded Content :=
  ⟨.none, content, .none⟩

/-- The weight in a place for a parameter, which may be empty. -/
def weightIn : Option Parameter → Option Weight
  | some (.weight _ quality) => some quality
  | _ => none

/-- The text of a place for a parameter. -/
def parameterText : Option Parameter → Bytes
  | none => []
  | some parameter => parameter.text

/-- A media type with parameters, at most one of them a weight. -/
structure MediaRange where
  mediaType : Padded MediaType
  parameters : List (Padded (Option Parameter))
  single :
    (parameters.filterMap fun place => weightIn place.content).length ≤ 1

namespace MediaRange

/-- The weight, if there is one. -/
def weight? (range : MediaRange) : Option Weight :=
  (range.parameters.filterMap fun place => weightIn place.content).head?

/-- The media type and the parameters, each with its white space. -/
def parts (range : MediaRange) : List Bytes :=
  range.mediaType.text MediaType.text ::
    range.parameters.map (Padded.text parameterText)

def text (range : MediaRange) : Bytes :=
  [59].intercalate range.parts

/--
The items in which a reader finds a range to whom quotes mean nothing: every
comma ends an item and every semicolon ends a part, also between quotes.
-/
def items (range : MediaRange) : List (List Bytes) :=
  joinCuts (range.parts.map (cut 44 59))

/-- No quoted string contains a comma or a semicolon. -/
def QuotesNoSeparator (range : MediaRange) : Prop :=
  ∀ name quoted ordinary,
    some (.named name quoted ordinary) ∈
        range.parameters.map Padded.content →
    44 ∉ quoted.text ∧ 59 ∉ quoted.text

end MediaRange

/-- One element of the list; elements may be empty. -/
inductive AcceptElement where
  | empty (space : OptionalSpace)
  | range (content : MediaRange)

def AcceptElement.text : AcceptElement → Bytes
  | .empty space => space.text
  | .range content => content.text

/-- An Accept value. -/
abbrev AcceptValue := List AcceptElement

namespace AcceptValue

def text (value : AcceptValue) : Bytes :=
  [44].intercalate (value.map AcceptElement.text)

/-- Some element names the type, without a weight or with a positive one. -/
def Accepts (value : AcceptValue) (expected : MediaType) : Prop :=
  ∃ range,
    .range range ∈ value ∧
      range.mediaType.content.Names expected ∧
      ∀ weight, range.weight? = some weight → 0 < weight.value

end AcceptValue

section Delimiters

/-- A byte that ends a part: no token and no white space contains it. -/
structure IsSeparator (separator : UInt8) : Prop where
  noToken : isTokenCharacter separator = false
  noBlank : separator ≠ 32
  noTab : separator ≠ 9
  noSlash : separator ≠ 47
  noEquals : separator ≠ 61

theorem isSeparator_comma : IsSeparator 44 := by
  constructor <;> decide

theorem isSeparator_semicolon : IsSeparator 59 := by
  constructor <;> decide

variable {separator : UInt8}

theorem Token.notMem
    (token : Token)
    (noToken : isTokenCharacter separator = false) :
    separator ∉ token.text := by
  intro member
  have isToken := List.all_eq_true.mp token.characters separator member
  rw [noToken] at isToken
  cases isToken

theorem IsSeparator.notMem_space
    (isSeparator : IsSeparator separator)
    (space : OptionalSpace) :
    separator ∉ space.text := by
  intro member
  exact (space.blank separator member).elim isSeparator.noBlank
    isSeparator.noTab

theorem Padded.notMem_text
    {Content : Type}
    {render : Content → Bytes}
    {padded : Padded Content}
    (isSeparator : IsSeparator separator)
    (free : separator ∉ render padded.content) :
    separator ∉ padded.text render := by
  simp [Padded.text, free, isSeparator.notMem_space]

theorem IsSeparator.notMem_mediaType
    (isSeparator : IsSeparator separator)
    (mediaType : MediaType) :
    separator ∉ mediaType.text := by
  simp [MediaType.text, Token.notMem _ isSeparator.noToken,
    isSeparator.noSlash]

/-- A digit is a token character. -/
theorem isTokenCharacter_digitByte (digit : Fin 10) :
    isTokenCharacter (Decimal.digitByte digit) = true := by
  revert digit
  decide

/-- The text of a decimal consists of token characters. -/
theorem Decimal.isTokenCharacter_of_mem
    {decimal : Decimal}
    {byte : UInt8}
    (member : byte ∈ decimal.text) :
    isTokenCharacter byte = true := by
  unfold Decimal.text at member
  rcases List.mem_cons.mp member with rfl | inDecimals
  · unfold Decimal.integralByte
    split <;> rfl
  · cases decimals : decimal.decimals with
    | none =>
        simp [decimals] at inDecimals
    | some digits =>
        simp only [decimals, List.mem_cons, List.mem_map] at inDecimals
        rcases inDecimals with rfl | ⟨digit, -, rfl⟩
        · rfl
        · exact isTokenCharacter_digitByte digit

/-- A separator is not in a parameter whose value it is not in. -/
theorem IsSeparator.notMem_parameter
    (isSeparator : IsSeparator separator)
    {place : Option Parameter}
    (free :
      ∀ name value ordinary,
        place = some (.named name value ordinary) →
        separator ∉ value.text) :
    separator ∉ parameterText place := by
  rcases place with - | parameter
  · simp [parameterText]
  · cases parameter with
    | named name value ordinary =>
        simp [parameterText, Parameter.text, isSeparator.noEquals,
          Token.notMem _ isSeparator.noToken,
          free name value ordinary rfl]
    | weight isUpper quality =>
        intro member
        have isToken : isTokenCharacter separator = true := by
          rcases List.mem_cons.mp member with rfl | inValue
          · cases isUpper <;> rfl
          · rcases List.mem_cons.mp inValue with rfl | inWeight
            · exact absurd rfl isSeparator.noEquals
            · exact quality.isTokenCharacter_of_mem inWeight
        rw [isSeparator.noToken] at isToken
        cases isToken

/-- A separator is not in the parts of a range whose values are free of it. -/
theorem IsSeparator.notMem_parts
    (isSeparator : IsSeparator separator)
    {range : MediaRange}
    (free :
      ∀ name value ordinary,
        some (.named name value ordinary) ∈
            range.parameters.map Padded.content →
        separator ∉ value.text)
    {part : Bytes}
    (isPart : part ∈ range.parts) :
    separator ∉ part := by
  rcases List.mem_cons.mp isPart with rfl | isParameter
  · exact Padded.notMem_text isSeparator
      (isSeparator.notMem_mediaType _)
  · obtain ⟨padded, member, rfl⟩ := List.mem_map.mp isParameter
    refine Padded.notMem_text isSeparator
      (isSeparator.notMem_parameter ?_)
    intro name value ordinary same
    exact free name value ordinary
      (same ▸ List.mem_map_of_mem (f := Padded.content) member)

end Delimiters

end TgGate.Library
