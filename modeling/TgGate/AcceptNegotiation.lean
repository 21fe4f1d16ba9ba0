import TgGate.HttpGate
import TgGate.Library.AcceptField
import TgGate.Library.TrimmedParts

namespace TgGate

open Library

/-!
# Accept negotiation

`accepts_media_type` splits an Accept value at every comma and every
semicolon, quoted or not, and takes a weight that ends in its point for none
at all.  Its outcome on every value of the grammar is that of a reader to whom
quotes mean nothing; where such a reader finds the same weights and no other
types, it is the grammar's, up to weights that end in their point.
-/

section Splitting

variable {separator : UInt8}

theorem splitFirst_of_notMem
    {text : Bytes}
    (free : separator ∉ text) :
    splitFirst separator text = (text, none) := by
  have kept : ∀ byte ∈ text, (byte ≠ separator : Bool) = true := by
    intro byte member
    simpa using ne_of_mem_of_not_mem member free
  unfold splitFirst
  rw [List.takeWhile_eq_self_iff.mpr kept,
    List.dropWhile_eq_nil_iff.mpr kept]
  rfl

theorem splitFirst_append
    {first : Bytes}
    (free : separator ∉ first)
    (rest : Bytes) :
    splitFirst separator (first ++ separator :: rest) =
      (first, some rest) := by
  have kept : ∀ byte ∈ first, (byte ≠ separator : Bool) = true := by
    intro byte member
    simpa using ne_of_mem_of_not_mem member free
  unfold splitFirst
  rw [List.takeWhile_append_of_pos kept,
    List.dropWhile_append_of_pos kept]
  simp

/-- What was split can be put together again. -/
theorem text_of_splitFirst
    {text first : Bytes}
    {rest : Option Bytes}
    (split : splitFirst separator text = (first, rest)) :
    text = first ++ rest.elim [] (separator :: ·) := by
  unfold splitFirst at split
  obtain ⟨rfl, rfl⟩ := Prod.mk.inj split
  have parts :=
    List.takeWhile_append_dropWhile (p := (· ≠ separator)) (l := text)
  cases remaining : text.dropWhile (· ≠ separator) with
  | nil =>
      rw [remaining, List.append_nil] at parts
      rw [parts]
      exact (List.append_nil text).symm
  | cons byte others =>
      have stops := List.head?_dropWhile_not (· ≠ separator) text
      rw [remaining] at stops parts
      have isSeparator : byte = separator := by
        simpa using stops
      subst isSeparator
      exact parts.symm

end Splitting

section Trimming

/-- A text without white space at its ends is trimmed already. -/
theorem trim_eq_self
    {text : Bytes}
    (front : ∀ byte ∈ text.head?, isSpace byte = false)
    (back : ∀ byte ∈ text.getLast?, isSpace byte = false) :
    trimAsciiWhitespace text = text :=
  trimBoth_eq_self front back

theorem isSpace_of_mem_space
    {space : OptionalSpace}
    {byte : UInt8}
    (member : byte ∈ space.text) :
    isSpace byte = true := by
  rcases space.blank byte member with rfl | rfl <;> rfl

/-- White space around something is trimmed. -/
theorem trim_padded
    {Content : Type}
    (render : Content → Bytes)
    (padded : Padded Content) :
    trimAsciiWhitespace (padded.text render) =
      trimAsciiWhitespace (render padded.content) :=
  trimBoth_padded (fun _ => isSpace_of_mem_space)
    (fun _ => isSpace_of_mem_space) _

/-- No token character is white space. -/
theorem isSpace_of_isTokenCharacter
    {byte : UInt8}
    (isToken : isTokenCharacter byte = true) :
    isSpace byte = false := by
  have printable := printable_of_isTokenCharacter isToken
  simp only [isSpace, ← UInt8.toNat_inj, UInt8.le_iff_toNat_le,
    UInt8.reduceToNat, Bool.or_eq_false_iff, Bool.and_eq_false_iff,
    decide_eq_false_iff_not]
  omega

/-- Token characters are not trimmed. -/
theorem trim_of_isTokenCharacter
    {text : Bytes}
    (isToken : ∀ byte ∈ text, isTokenCharacter byte = true) :
    trimAsciiWhitespace text = text :=
  trim_eq_self
    (fun byte member => isSpace_of_isTokenCharacter
      (isToken byte (List.mem_of_mem_head? member)))
    (fun byte member => isSpace_of_isTokenCharacter
      (isToken byte (List.mem_of_mem_getLast? member)))

theorem isTokenCharacter_of_mem
    {token : Token}
    {byte : UInt8}
    (member : byte ∈ token.text) :
    isTokenCharacter byte = true :=
  List.all_eq_true.mp token.characters byte member

/-- A text that begins and ends with tokens or quotes is not trimmed. -/
theorem trim_append
    {first last : Bytes}
    (firstNonempty : first ≠ [])
    (lastNonempty : last ≠ [])
    (front : ∀ byte ∈ first.head?, isSpace byte = false)
    (back : ∀ byte ∈ last.getLast?, isSpace byte = false)
    (middle : Bytes) :
    trimAsciiWhitespace (first ++ middle ++ last) =
      first ++ middle ++ last := by
  refine trim_eq_self ?_ ?_
  · intro byte member
    rw [List.append_assoc, List.head?_append_of_ne_nil _ firstNonempty]
      at member
    exact front byte member
  · intro byte member
    rw [List.getLast?_append_of_ne_nil _ lastNonempty] at member
    exact back byte member

/-- A token begins with no white space. -/
theorem isSpace_head_token
    (token : Token) :
    ∀ byte ∈ token.text.head?, isSpace byte = false :=
  fun _ member => isSpace_of_isTokenCharacter
    (isTokenCharacter_of_mem (List.mem_of_mem_head? member))

/-- A token ends with no white space. -/
theorem isSpace_getLast_token
    (token : Token) :
    ∀ byte ∈ token.text.getLast?, isSpace byte = false :=
  fun _ member => isSpace_of_isTokenCharacter
    (isTokenCharacter_of_mem (List.mem_of_mem_getLast? member))

theorem trim_mediaType (mediaType : MediaType) :
    trimAsciiWhitespace mediaType.text = mediaType.text := by
  have trimmed :=
    trim_append mediaType.type.nonempty mediaType.subtype.nonempty
      (isSpace_head_token _) (isSpace_getLast_token _) [47]
  simpa [MediaType.text] using trimmed

/-- Nothing is trimmed from the value of a parameter. -/
theorem isSpace_getLast_value
    (value : ParameterValue) :
    value.text ≠ [] ∧
      ∀ byte ∈ value.text.getLast?, isSpace byte = false := by
  cases value with
  | token token =>
      exact ⟨token.nonempty, isSpace_getLast_token token⟩
  | quoted characters =>
      refine ⟨by simp [ParameterValue.text], ?_⟩
      intro byte member
      have isQuote : byte = 34 := by
        simpa [ParameterValue.text, List.getLast?_cons] using member.symm
      subst isQuote
      decide

theorem trim_weight (weight : Weight) :
    trimAsciiWhitespace weight.text = weight.text :=
  trim_of_isTokenCharacter fun _ => weight.isTokenCharacter_of_mem

/-- Nothing is trimmed from a parameter. -/
theorem trim_parameter (parameter : Parameter) :
    trimAsciiWhitespace parameter.text = parameter.text := by
  cases parameter with
  | named name value ordinary =>
      obtain ⟨nonempty, back⟩ := isSpace_getLast_value value
      have trimmed :=
        trim_append name.nonempty nonempty (isSpace_head_token _) back
          [61]
      simpa [Parameter.text] using trimmed
  | weight isUpper quality =>
      have front :
          ∀ byte ∈ ([if isUpper then 81 else 113] : Bytes).head?,
            isSpace byte = false := by
        cases isUpper <;> decide +kernel
      have back :
          ∀ byte ∈ quality.text.getLast?, isSpace byte = false :=
        fun _ member => isSpace_of_isTokenCharacter
          (quality.isTokenCharacter_of_mem
            (List.mem_of_mem_getLast? member))
      have trimmed :=
        trim_append (List.cons_ne_nil _ _) quality.text_ne_nil front back
          [61]
      simpa [Parameter.text] using trimmed

end Trimming

section Quality

theorem digitByte_eq_iff {digit : Fin 10} :
    Decimal.digitByte digit = 48 ↔ digit = 0 := by
  revert digit
  decide

/-- Digits are between the first and the last digit. -/
theorem digitByte_isDigit (digit : Fin 10) :
    ¬ (Decimal.digitByte digit < 48 ∨ Decimal.digitByte digit > 57) := by
  revert digit
  decide

/-- Decimals contain nothing but digits. -/
theorem any_nonDigit (digits : List (Fin 10)) :
    ((digits.map Decimal.digitByte).any
      fun character => character < 48 || character > 57) = false := by
  rw [List.any_eq_false]
  intro character member
  obtain ⟨digit, -, rfl⟩ := List.mem_map.mp member
  simpa using digitByte_isDigit digit

/-- Some decimal is not zero. -/
theorem any_nonZero_iff {digits : List (Fin 10)} :
    ((digits.map Decimal.digitByte).any (· ≠ 48)) = true ↔
      ∃ digit ∈ digits, digit ≠ 0 := by
  simp [List.any_eq_true, digitByte_eq_iff]

/-- A quality with a point: one without decimals is refused. -/
theorem qualityIsPositive_point
    (integral : UInt8)
    (known : integral = 48 ∨ integral = 49)
    (digits : List (Fin 10)) :
    qualityIsPositive (integral :: 46 :: digits.map Decimal.digitByte) =
      (!digits.isEmpty &&
        if integral = 49 then
          (digits.map Decimal.digitByte).all (· = 48)
        else
          (digits.map Decimal.digitByte).any (· ≠ 48)) := by
  have noPoint : (46 : UInt8) ∉ [integral] := by
    rcases known with rfl | rfl <;> decide
  have split :=
    splitFirst_append noPoint (digits.map Decimal.digitByte)
  rw [List.singleton_append] at split
  unfold qualityIsPositive
  simp only [List.isEmpty_cons, Bool.false_eq_true, ↓reduceIte, split,
    Option.getD_some, any_nonDigit, Option.isSome_some, Bool.true_and,
    List.isEmpty_map]
  have zero : bytes "0" = [48] := by
    decide
  have one : bytes "1" = [49] := by
    decide
  rcases known with rfl | rfl
  · cases digits <;> simp [zero, one]
  · cases digits <;> simp [zero, one]

/-- A quality is positive if the decimal is, and does not end in a point. -/
theorem qualityIsPositive_text (decimal : Decimal) :
    qualityIsPositive decimal.text = true ↔
      0 < decimal.value ∧ ¬ decimal.EndsInPoint := by
  have known : decimal.integralByte = 48 ∨ decimal.integralByte = 49 := by
    unfold Decimal.integralByte
    split <;> simp
  rw [Decimal.value_pos_iff, Decimal.EndsInPoint]
  cases decimals : decimal.decimals with
  | none =>
      have shape : decimal.text = [decimal.integralByte] := by
        simp [Decimal.text, decimals]
      rw [shape]
      unfold Decimal.integralByte
      cases decimal.isOne <;> decide
  | some digits =>
      have shape :
          decimal.text =
            decimal.integralByte :: 46 ::
              digits.map Decimal.digitByte := by
        simp [Decimal.text, decimals]
      rw [shape, qualityIsPositive_point _ known, Bool.and_eq_true]
      cases isOne : decimal.isOne with
      | true =>
          have zeros := decimal.atMostOne isOne digits decimals
          have allZero :
              (digits.map Decimal.digitByte).all (· = 48) = true := by
            rw [List.all_eq_true]
            intro character member
            obtain ⟨digit, isDigit, rfl⟩ := List.mem_map.mp member
            exact decide_eq_true (digitByte_eq_iff.mpr
              (zeros digit isDigit))
          have integral : decimal.integralByte = 49 := by
            simp [Decimal.integralByte, isOne]
          rw [if_pos integral, allZero]
          simp
      | false =>
          have integral : decimal.integralByte ≠ 49 := by
            simp [Decimal.integralByte, isOne]
          rw [if_neg integral, any_nonZero_iff]
          simp [and_comm]

/-- Bytes that are digits are the bytes of digits. -/
theorem exists_digits
    {characters : Bytes}
    (digitsOnly :
      (characters.any
        fun character => character < 48 || character > 57) = false) :
    ∃ digits : List (Fin 10),
      digits.map Decimal.digitByte = characters := by
  induction characters with
  | nil =>
      exact ⟨[], rfl⟩
  | cons character rest inductionHypothesis =>
      rw [List.any_cons, Bool.or_eq_false_iff] at digitsOnly
      obtain ⟨isDigit, restDigits⟩ := digitsOnly
      obtain ⟨digits, rfl⟩ := inductionHypothesis restDigits
      simp only [Bool.or_eq_false_iff, decide_eq_false_iff_not,
        UInt8.lt_iff_toNat_lt, UInt8.reduceToNat, not_lt] at isDigit
      have same :
          Decimal.digitByte ⟨character.toNat - 48, by omega⟩ =
            character := by
        rw [← UInt8.toNat_inj, Decimal.digitByte, UInt8.toNat_add,
          UInt8.toNat_ofNat']
        simp only [UInt8.reduceToNat]
        omega
      exact ⟨_ :: digits, by rw [List.map_cons, same]⟩

/-- Digits after a one that are all zero, or any after a zero, are a decimal. -/
theorem exists_decimal_text
    (isOne : Bool)
    {fraction : Option Bytes}
    (digitsOnly :
      ((fraction.getD []).any
        fun character => character < 48 || character > 57) = false)
    (small :
      isOne = true → (fraction.getD []).all (· = 48) = true) :
    ∃ decimal : Decimal,
      decimal.text =
        (if isOne then 49 else 48) :: fraction.elim [] (46 :: ·) := by
  cases fraction with
  | none =>
      exact ⟨⟨isOne, none, by simp⟩, rfl⟩
  | some characters =>
      obtain ⟨digits, rfl⟩ := exists_digits digitsOnly
      refine ⟨⟨isOne, some digits, ?_⟩, rfl⟩
      rintro rfl _ ⟨⟩ digit member
      have zeros := List.all_eq_true.mp (small rfl) _
        (List.mem_map_of_mem member)
      exact digitByte_eq_iff.mp (of_decide_eq_true zeros)

/-- What the code takes for a positive quality is a decimal. -/
theorem exists_decimal_of_qualityIsPositive
    {text : Bytes}
    (positive : qualityIsPositive text = true) :
    ∃ decimal : Decimal, decimal.text = text := by
  rcases split : splitFirst 46 text with ⟨integral, fraction⟩
  have shape := text_of_splitFirst split
  unfold qualityIsPositive at positive
  simp only [split, Bool.or_eq_true, Bool.and_eq_true] at positive
  split_ifs at positive with empty refused nonDigit isOne
  · have decimal :=
      exists_decimal_text true (Bool.eq_false_iff.mpr nonDigit)
        fun _ => positive
    rw [shape, isOne]
    exact decimal
  · have isZero : integral = bytes "0" := by
      simpa [isOne] using (not_or.mp refused).1
    have decimal :=
      exists_decimal_text false (Bool.eq_false_iff.mpr nonDigit) nofun
    rw [shape, isZero]
    exact decimal

/-- The positive qualities are the positive decimals, save for bare points. -/
theorem qualityIsPositive_iff {text : Bytes} :
    qualityIsPositive text = true ↔
      ∃ decimal : Decimal,
        decimal.text = text ∧
          0 < decimal.value ∧ ¬ decimal.EndsInPoint := by
  constructor
  · intro positive
    obtain ⟨decimal, rfl⟩ := exists_decimal_of_qualityIsPositive positive
    exact ⟨decimal, rfl, (qualityIsPositive_text decimal).mp positive⟩
  · rintro ⟨decimal, rfl, isPositive⟩
    exact (qualityIsPositive_text decimal).mpr isPositive

/-- What a part gives for a weight, if it is called `q`. -/
def weightText (part : Bytes) : Option Bytes :=
  match splitFirst 61 (trimAsciiWhitespace part) with
  | (_, none) => none
  | (name, some value) =>
      if asciiEqualIgnoreCase (trimAsciiWhitespace name)
          (bytes "q") then
        some (trimAsciiWhitespace value)
      else
        none

theorem weightText_trim (part : Bytes) :
    weightText (trimAsciiWhitespace part) = weightText part := by
  have same :
      trimAsciiWhitespace (trimAsciiWhitespace part) =
        trimAsciiWhitespace part :=
    trimBoth_trimBoth part
  rw [weightText, same, weightText]

/-- The first weight among the parts decides. -/
theorem hasPositiveQualityIn_eq (parts : List Bytes) :
    hasPositiveQualityIn parts =
      (parts.filterMap weightText).head?.all qualityIsPositive := by
  induction parts with
  | nil =>
      rfl
  | cons part rest inductionHypothesis =>
      rw [hasPositiveQualityIn, List.filterMap_cons, weightText,
        inductionHypothesis]
      rcases splitFirst 61 (trimAsciiWhitespace part) with ⟨name, - | value⟩
      · rfl
      · by_cases isWeight :
            asciiEqualIgnoreCase (trimAsciiWhitespace name)
              (bytes "q") = true
        · simp [isWeight]
        · simp [isWeight]

/-- Trimmed parts are judged alike. -/
theorem hasPositiveQualityIn_map_trim (parts : List Bytes) :
    hasPositiveQualityIn (parts.map trimAsciiWhitespace) =
      hasPositiveQualityIn parts := by
  have same : weightText ∘ trimAsciiWhitespace = weightText :=
    funext weightText_trim
  rw [hasPositiveQualityIn_eq, hasPositiveQualityIn_eq,
    List.filterMap_map, same]

/-- A place for a parameter gives the weight that is in it. -/
theorem weightText_place (place : Padded (Option Parameter)) :
    weightText (place.text parameterText) =
      (weightIn place.content).map fun weight => weight.text := by
  rw [weightText, trim_padded]
  cases content : place.content with
  | none =>
      decide
  | some parameter =>
      rw [parameterText, trim_parameter]
      cases parameter with
      | named name value ordinary =>
          have noEquals : (61 : UInt8) ∉ name.text :=
            name.notMem (by decide)
          have ordinaryName :
              asciiEqualIgnoreCase (trimAsciiWhitespace name.text)
                (bytes "q") = false := by
            rw [trim_of_isTokenCharacter fun _ => isTokenCharacter_of_mem]
            refine Bool.eq_false_iff.mpr fun same => ordinary ?_
            rw [asciiEqualIgnoreCase_iff.mp same]
            decide
          simp [Parameter.text, splitFirst_append noEquals, ordinaryName,
            weightIn]
      | weight isUpper quality =>
          have noEquals :
              (61 : UInt8) ∉ ([if isUpper then 81 else 113] : Bytes) := by
            cases isUpper <;> decide
          have parted := splitFirst_append noEquals quality.text
          rw [List.singleton_append] at parted
          have isWeight :
              asciiEqualIgnoreCase
                (trimAsciiWhitespace [if isUpper then 81 else 113])
                (bytes "q") = true := by
            cases isUpper <;> decide
          simp only [Parameter.text, parted, isWeight, ↓reduceIte,
            trim_weight]
          rfl

end Quality

section Negotiation

/-- The judgement of one item, from its parts. -/
def partsAccept (expected : Bytes) : List Bytes → Bool
  | [] => false
  | mediaType :: parameters =>
      asciiEqualIgnoreCase (trimAsciiWhitespace mediaType) expected &&
        hasPositiveQualityIn parameters

/-- The judgement of one item. -/
def itemAccepts (expected item : Bytes) : Bool :=
  let (mediaType, parameters) :=
    splitFirst 59 (trimAsciiWhitespace item)
  asciiEqualIgnoreCase (trimAsciiWhitespace mediaType) expected &&
    parameters.all hasPositiveQuality

theorem partsAccept_congr
    {expected : Bytes}
    {first second : List Bytes}
    (same :
      first.map trimAsciiWhitespace = second.map trimAsciiWhitespace) :
    partsAccept expected first = partsAccept expected second := by
  cases first with
  | nil =>
      rw [List.map_eq_nil_iff.mp same.symm]
  | cons mediaType parameters =>
      cases second with
      | nil =>
          cases same
      | cons other others =>
          obtain ⟨sameType, sameParameters⟩ := List.cons.inj same
          rw [partsAccept, partsAccept, sameType,
            ← hasPositiveQualityIn_map_trim parameters, sameParameters,
            hasPositiveQualityIn_map_trim]

/-- A trimmed item that consists of parts is judged by them. -/
theorem itemAccepts_of_trim
    {expected item : Bytes}
    {parts : List Bytes}
    (nonempty : parts ≠ [])
    (free : ∀ part ∈ parts, 59 ∉ part)
    (trimmed :
      trimAsciiWhitespace item = [59].intercalate parts) :
    itemAccepts expected item = partsAccept expected parts := by
  obtain ⟨mediaType, parameters, rfl⟩ :=
    List.exists_cons_of_ne_nil nonempty
  have typeFree := free mediaType (by simp)
  rw [itemAccepts, trimmed, partsAccept]
  by_cases single : parameters = []
  · subst single
    rw [List.intercalate_singleton, splitFirst_of_notMem typeFree]
    rfl
  · have parametersFree : ∀ part ∈ parameters, 59 ∉ part :=
      fun part member => free part (by simp [member])
    rw [intercalate_cons_of_ne_nil single, splitFirst_append typeFree]
    simp only [Option.all_some, hasPositiveQuality]
    rw [List.splitOn_intercalate 59 parametersFree single]

/-- An item that consists of parts is judged by them. -/
theorem itemAccepts_intercalate
    {expected : Bytes}
    {parts : List Bytes}
    (nonempty : parts ≠ [])
    (free : ∀ part ∈ parts, 59 ∉ part) :
    itemAccepts expected ([59].intercalate parts) =
      partsAccept expected parts := by
  have noSpace : isSpace 59 = false := by
    decide
  have has :
      HasParts isSpace 59 parts ([59].intercalate parts) :=
    ⟨parts, nonempty, free, rfl, rfl⟩
  obtain ⟨own, ownNonempty, ownFree, shape, same⟩ :=
    (has.dropWhile noSpace).rdropWhile noSpace
  rw [itemAccepts_of_trim ownNonempty ownFree shape]
  exact partsAccept_congr same

/-- An item is judged by the parts between its semicolons. -/
theorem itemAccepts_eq (expected item : Bytes) :
    itemAccepts expected item =
      partsAccept expected (item.splitOn 59) := by
  have judged :=
    @itemAccepts_intercalate expected _ (List.splitOn_ne_nil 59 item)
      fun _ => notMem_of_mem_splitOn
  rwa [List.intercalate_splitOn] at judged

/-- A value is judged by the items between its commas. -/
theorem acceptsMediaType_eq (accept expected : Bytes) :
    acceptsMediaType accept expected =
      (cut 44 59 accept).any (partsAccept expected) := by
  have judged :
      acceptsMediaType accept expected =
        (accept.splitOn 44).any (itemAccepts expected) :=
    rfl
  rw [judged, cut, List.any_map]
  exact congrArg _ (funext fun item => itemAccepts_eq expected item)

/-- The first part of an item names a type. -/
def ItemNames (expected : MediaType) (item : List Bytes) : Prop :=
  ∃ first ∈ item.head?,
    (trimAsciiWhitespace first).map toLower =
      expected.text.map toLower

/-- An item has no weight, or its first one counts. -/
def ItemAllows (item : List Bytes) : Prop :=
  ∀ text ∈ (item.tail.filterMap weightText).head?,
    ∃ quality : Decimal,
      quality.text = text ∧
        0 < quality.value ∧ ¬ quality.EndsInPoint

theorem partsAccept_iff
    {expected : MediaType}
    {item : List Bytes} :
    partsAccept expected.text item = true ↔
      ItemNames expected item ∧ ItemAllows item := by
  cases item with
  | nil =>
      simp [partsAccept, ItemNames]
  | cons first parameters =>
      rw [partsAccept, Bool.and_eq_true, asciiEqualIgnoreCase_iff,
        hasPositiveQualityIn_eq, Option.all_eq_true]
      simp [ItemNames, ItemAllows, qualityIsPositive_iff]

/-- White space names nothing. -/
theorem not_itemNames_space
    (expected : MediaType)
    (space : OptionalSpace) :
    ¬ ItemNames expected [space.text] := by
  have blank : trimAsciiWhitespace space.text = [] := by
    have trimmed : trimAsciiWhitespace (space.text ++ []) = [] :=
      trimBoth_append_left (fun _ => isSpace_of_mem_space) []
    rwa [List.append_nil] at trimmed
  rintro ⟨first, isFirst, same⟩
  obtain rfl : space.text = first := by
    simpa using isFirst
  have lengths := congrArg List.length same
  simp [blank, MediaType.text] at lengths

/-- The items of an element, as a reader without quotes finds them. -/
theorem cut_element (element : AcceptElement) :
    cut 44 59 element.text =
      match element with
      | .empty space => [[space.text]]
      | .range range => range.items := by
  cases element with
  | empty space =>
      exact cut_of_notMem (isSeparator_comma.notMem_space space)
        (isSeparator_semicolon.notMem_space space)
  | range range =>
      exact cut_intercalate_inner (by decide) (List.cons_ne_nil _ _)

/-- The code's outcome, whatever is between quotes. -/
theorem acceptsMediaType_text_items_iff
    (value : AcceptValue)
    (expected : MediaType) :
    acceptsMediaType value.text expected.text = true ↔
      ∃ range item,
        .range range ∈ value ∧ item ∈ range.items ∧
          ItemNames expected item ∧ ItemAllows item := by
  rw [acceptsMediaType_eq, List.any_eq_true]
  simp only [partsAccept_iff]
  by_cases empty : value = []
  · subst empty
    have rejected := not_itemNames_space expected .none
    simpa [AcceptValue.text, cut, OptionalSpace.none] using
      fun names => absurd names rejected
  · have cuts :
        cut 44 59 value.text =
          (value.map AcceptElement.text).flatMap (cut 44 59) :=
      cut_intercalate_outer (by simpa using empty)
    rw [cuts, List.flatMap_map]
    simp only [List.mem_flatMap, cut_element]
    constructor
    · rintro ⟨item, ⟨element, member, isItem⟩, names, allows⟩
      cases element with
      | empty space =>
          rw [List.mem_singleton.mp isItem] at names
          exact absurd names (not_itemNames_space expected space)
      | range range =>
          exact ⟨range, item, member, isItem, names, allows⟩
    · rintro ⟨range, item, member, isItem, judged⟩
      exact ⟨item, ⟨.range range, member, isItem⟩, judged⟩

/--
What is between the quotes of a range does no harm: a reader without quotes
finds the weight of a range of the type, and does not find the type, allowed,
after a comma.
-/
structure QuotesHarmlessly
    (expected : MediaType)
    (range : MediaRange) : Prop where
  sameWeight :
    range.mediaType.content.Names expected →
    ∀ item ∈ range.items.head?,
      (item.tail.filterMap weightText).head? =
        range.weight?.map fun weight => weight.text
  noType :
    ∀ item ∈ range.items.tail,
      ItemNames expected item → ¬ ItemAllows item

/-- The first item of a range begins with its media type. -/
theorem exists_items (range : MediaRange) :
    ∃ parameters others,
      range.items =
        (range.mediaType.text MediaType.text :: parameters) :: others := by
  have whole :
      cut 44 59 (range.mediaType.text MediaType.text) =
        [[range.mediaType.text MediaType.text]] :=
    cut_of_notMem
      (Padded.notMem_text isSeparator_comma
        (isSeparator_comma.notMem_mediaType _))
      (Padded.notMem_text isSeparator_semicolon
        (isSeparator_semicolon.notMem_mediaType _))
  rw [MediaRange.items, MediaRange.parts, List.map_cons, whole]
  exact exists_joinCuts _ _

/-- Harmless quotes leave a range its own type and weight. -/
theorem exists_item_iff_of_quotesHarmlessly
    {expected : MediaType}
    {range : MediaRange}
    (harmless : QuotesHarmlessly expected range) :
    (∃ item ∈ range.items, ItemNames expected item ∧ ItemAllows item) ↔
      range.mediaType.content.Names expected ∧
        ∀ weight,
          range.weight? = some weight →
          0 < weight.value ∧ ¬ weight.EndsInPoint := by
  obtain ⟨parameters, others, shape⟩ := exists_items range
  obtain ⟨sameWeight, noType⟩ := harmless
  simp only [shape, List.head?_cons, Option.mem_some_iff, forall_eq',
    List.tail_cons] at sameWeight noType
  have names :
      ItemNames expected
          (range.mediaType.text MediaType.text :: parameters) ↔
        range.mediaType.content.Names expected := by
    simp [ItemNames, trim_padded, trim_mediaType, MediaType.Names]
  have allows
      (isNamed : range.mediaType.content.Names expected) :
      ItemAllows (range.mediaType.text MediaType.text :: parameters) ↔
        ∀ weight,
          range.weight? = some weight →
          0 < weight.value ∧ ¬ weight.EndsInPoint := by
    simp only [ItemAllows, List.tail_cons, sameWeight isNamed,
      Option.mem_def, Option.map_eq_some_iff, ← qualityIsPositive_iff,
      forall_exists_index, and_imp, forall_apply_eq_imp_iff₂,
      qualityIsPositive_text]
  rw [shape, ← and_congr_right allows, ← names]
  constructor
  · rintro ⟨item, member, judged⟩
    rcases List.mem_cons.mp member with rfl | isOther
    · exact judged
    · exact absurd judged.2 (noType item isOther judged.1)
  · intro judged
    exact ⟨_, List.mem_cons_self, judged⟩

/-- Quotes around no separator are harmless. -/
theorem quotesHarmlessly_of_quotesNoSeparator
    {range : MediaRange}
    (plain : range.QuotesNoSeparator)
    (expected : MediaType) :
    QuotesHarmlessly expected range := by
  have free : ∀ part ∈ range.parts, cut 44 59 part = [[part]] := by
    intro part isPart
    apply cut_of_notMem
    · refine isSeparator_comma.notMem_parts ?_ isPart
      intro name quoted ordinary isParameter
      exact (plain name quoted ordinary isParameter).1
    · refine isSeparator_semicolon.notMem_parts ?_ isPart
      intro name quoted ordinary isParameter
      exact (plain name quoted ordinary isParameter).2
  have whole : range.items = [range.parts] := by
    rw [MediaRange.items, List.map_congr_left free]
    exact joinCuts_whole _ _
  have texts :
      (weightText ∘ Padded.text parameterText) =
        fun place : Padded (Option Parameter) =>
          (weightIn place.content).map fun weight => weight.text :=
    funext weightText_place
  constructor
  · intro _ item isFirst
    rw [whole] at isFirst
    obtain rfl : range.parts = item := by
      simpa using isFirst
    rw [MediaRange.parts, List.tail_cons, List.filterMap_map, texts,
      ← List.map_filterMap, List.head?_map]
    rfl
  · intro item isOther
    rw [whole] at isOther
    cases isOther

/--
The code accepts what a reader without quotes finds in the value.  Where no
quotes do harm, it accepts what the grammar accepts, except for weights that
end in their point.
-/
theorem acceptsMediaType_text_iff
    (value : AcceptValue)
    (expected : MediaType) :
    (acceptsMediaType value.text expected.text = true ↔
      ∃ range item,
        .range range ∈ value ∧ item ∈ range.items ∧
          ItemNames expected item ∧ ItemAllows item) ∧
    ((∀ range, .range range ∈ value → QuotesHarmlessly expected range) →
      (acceptsMediaType value.text expected.text = true ↔
        ∃ range,
          .range range ∈ value ∧
            range.mediaType.content.Names expected ∧
            ∀ weight,
              range.weight? = some weight →
              0 < weight.value ∧ ¬ weight.EndsInPoint)) := by
  have outcome := acceptsMediaType_text_items_iff value expected
  refine ⟨outcome, fun harmless => outcome.trans ?_⟩
  constructor
  · rintro ⟨range, item, member, judged⟩
    exact ⟨range, member,
      (exists_item_iff_of_quotesHarmlessly (harmless range member)).mp
        ⟨item, judged⟩⟩
  · rintro ⟨range, member, judged⟩
    obtain ⟨item, found⟩ :=
      (exists_item_iff_of_quotesHarmlessly
        (harmless range member)).mpr judged
    exact ⟨range, item, member, found⟩

/-- The media type of a JSON response. -/
def applicationJson : MediaType where
  type := ⟨bytes "application", by decide, by decide⟩
  subtype := ⟨bytes "json", by decide, by decide⟩

/-- The media type of an event stream. -/
def textEventStream : MediaType where
  type := ⟨bytes "text", by decide, by decide⟩
  subtype := ⟨bytes "event-stream", by decide, by decide⟩

/-- A parameter with a text between quotes, none of it escaped. -/
def quotedParameter
    (text : Bytes)
    (plain : text.all isQuotedText = true) : Parameter :=
  .named ⟨bytes "p", by decide, by decide⟩
    (.quoted (text.attach.map fun byte =>
      .plain byte.1 (List.all_eq_true.mp plain byte.1 byte.2)))
    (by decide)

/-- A weight without decimals. -/
def wholeWeight (isOne : Bool) : Weight where
  isOne := isOne
  decimals := none
  short := by simp
  atMostOne := by simp

/-- ` text/event-stream`, after a blank. -/
def streamRange : MediaRange where
  mediaType := {
    unpadded textEventStream with before := ⟨[32], by simp⟩ }
  parameters := []
  single := by decide

/-- `application/json;p="a;b";q=1`. -/
def weighedRange : MediaRange where
  mediaType := unpadded applicationJson
  parameters := [
    unpadded (some (quotedParameter (bytes "a;b") (by decide))),
    unpadded (some (.weight false (wholeWeight true)))]
  single := by decide

/-- A semicolon between quotes that is followed by no weight is harmless. -/
theorem quotesHarmlessly_weighedRange :
    QuotesHarmlessly applicationJson weighedRange := by
  have items :
      weighedRange.items =
        [[bytes "application/json", bytes "p=\"a", bytes "b\"",
          bytes "q=1"]] := by
    decide +kernel
  constructor
  · intro _ item isFirst
    rw [items] at isFirst
    cases isFirst
    decide +kernel
  · intro item isOther
    rw [items] at isOther
    cases isOther

theorem acceptsMediaType_bothTypes :
    AcceptValue.text [.range weighedRange, .range streamRange] =
        bytes "application/json;p=\"a;b\";q=1, text/event-stream" ∧
      acceptsMediaType
          (AcceptValue.text [.range weighedRange, .range streamRange])
          applicationJson.text =
        true := by
  refine ⟨by decide +kernel,
    ((acceptsMediaType_text_iff _ applicationJson).2 ?_).mpr
      ⟨weighedRange, List.mem_cons_self, rfl, ?_⟩⟩
  · intro range member
    rcases List.mem_cons.mp member with same | isSecond
    · cases same
      exact quotesHarmlessly_weighedRange
    · cases List.mem_singleton.mp isSecond
      refine quotesHarmlessly_of_quotesNoSeparator ?_ applicationJson
      intro name quoted ordinary isParameter
      cases isParameter
  · intro weight isWeight
    cases isWeight
    exact ⟨Decimal.value_pos_iff.mpr (.inl rfl), nofun⟩

/-- `application/json;p="a,b";q=0`. -/
def quotedComma : AcceptValue := [
  .range {
    mediaType := unpadded applicationJson
    parameters := [
      unpadded (some (quotedParameter (bytes "a,b") (by decide))),
      unpadded (some (.weight false (wholeWeight false)))]
    single := by decide
  }]

/-- `application/json;p=";q=0"`. -/
def quotedSemicolon : AcceptValue := [
  .range {
    mediaType := unpadded applicationJson
    parameters := [
      unpadded (some (quotedParameter (bytes ";q=0") (by decide)))]
    single := by decide
  }]

/-- `text/html;p=",application/json,"`. -/
def quotedType : AcceptValue := [
  .range {
    mediaType := unpadded {
      type := ⟨bytes "text", by decide, by decide⟩
      subtype := ⟨bytes "html", by decide, by decide⟩
    }
    parameters := [
      unpadded (some (quotedParameter (bytes ",application/json,")
        (by decide)))]
    single := by decide
  }]

/-- `application/json;q=1.`. -/
def barePoint : AcceptValue := [
  .range {
    mediaType := unpadded applicationJson
    parameters := [
      unpadded (some (.weight false {
        isOne := true
        decimals := some []
        short := by simp
        atMostOne := by simp
      }))]
    single := by decide
  }]

/--
A comma between quotes hides a weight of zero or begins a type, a semicolon
between quotes makes a weight, and a weight of one that ends in its point is
taken for none.
-/
theorem negotiation_deviates :
    (quotedComma.text = bytes "application/json;p=\"a,b\";q=0" ∧
      acceptsMediaType quotedComma.text applicationJson.text = true ∧
      ¬ quotedComma.Accepts applicationJson) ∧
    (quotedSemicolon.text = bytes "application/json;p=\";q=0\"" ∧
      acceptsMediaType quotedSemicolon.text applicationJson.text = false ∧
      quotedSemicolon.Accepts applicationJson) ∧
    (quotedType.text = bytes "text/html;p=\",application/json,\"" ∧
      acceptsMediaType quotedType.text applicationJson.text = true ∧
      ¬ quotedType.Accepts applicationJson) ∧
    (barePoint.text = bytes "application/json;q=1." ∧
      acceptsMediaType barePoint.text applicationJson.text = false ∧
      barePoint.Accepts applicationJson) := by
  refine ⟨⟨by decide +kernel, by decide +kernel, ?_⟩,
    ⟨by decide +kernel, by decide +kernel, ?_⟩,
    ⟨by decide +kernel, by decide +kernel, ?_⟩,
    by decide +kernel, by decide +kernel, ?_⟩
  · rintro ⟨range, member, -, weighed⟩
    cases List.mem_singleton.mp member
    rcases Decimal.value_pos_iff.mp (weighed (wholeWeight false) rfl) with
      isOne | ⟨digit, isDigit, -⟩
    · cases isOne
    · cases isDigit
  · refine ⟨_, List.mem_cons_self, rfl, fun weight isWeight => ?_⟩
    cases isWeight
  · rintro ⟨range, member, names, -⟩
    cases List.mem_singleton.mp member
    revert names
    unfold MediaType.Names
    decide +kernel
  · refine ⟨_, List.mem_cons_self, rfl, fun weight isWeight => ?_⟩
    cases isWeight
    exact Decimal.value_pos_iff.mpr (.inl rfl)

end Negotiation

end TgGate
