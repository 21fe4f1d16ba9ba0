import TgGate.Library.JsonText

namespace TgGate.Library

/-!
# The strings in a text

A quotation mark inside a string is escaped, so a scan of the compact text of
a value finds all its strings and keys in their order.  Escaped texts can be
read back, and two values with one text therefore have the same strings.
-/

/-- Where a scan of a text is. -/
inductive StringScan where
  | outside (found : List Bytes)
  | inside (found : List Bytes) (body : Bytes)
  | escaped (found : List Bytes) (body : Bytes)

namespace StringScan

/-- Scan one byte. -/
def next : StringScan → UInt8 → StringScan
  | .outside found, byte =>
      if byte = 34 then .inside found [] else .outside found
  | .inside found body, byte =>
      if byte = 34 then
        .outside (found ++ [body])
      else if byte = 92 then
        .escaped found (body ++ [byte])
      else
        .inside found (body ++ [byte])
  | .escaped found body, byte => .inside found (body ++ [byte])

/-- Scan a text. -/
def read (scan : StringScan) (text : Bytes) : StringScan :=
  text.foldl next scan

@[simp] theorem read_nil (scan : StringScan) : scan.read [] = scan :=
  rfl

@[simp] theorem read_cons
    (scan : StringScan)
    (byte : UInt8)
    (text : Bytes) :
    scan.read (byte :: text) = (scan.next byte).read text :=
  rfl

@[simp] theorem read_append
    (scan : StringScan)
    (first second : Bytes) :
    scan.read (first ++ second) = (scan.read first).read second :=
  List.foldl_append

end StringScan

/-- A text has these escaped strings and leaves none open. -/
def ShowsBodies (text : Bytes) (bodies : List Bytes) : Prop :=
  ∀ found : List Bytes,
    (StringScan.outside found).read text = .outside (found ++ bodies)

namespace ShowsBodies

variable {text first second : Bytes}
variable {bodies firstBodies secondBodies : List Bytes}

/-- A text shows one list of strings. -/
theorem unique
    (shows : ShowsBodies text firstBodies)
    (showsToo : ShowsBodies text secondBodies) :
    firstBodies = secondBodies := by
  have same := (shows []).symm.trans (showsToo [])
  exact StringScan.outside.inj same

theorem append
    (shows : ShowsBodies first firstBodies)
    (showsToo : ShowsBodies second secondBodies) :
    ShowsBodies (first ++ second) (firstBodies ++ secondBodies) := by
  intro found
  rw [StringScan.read_append, shows found, showsToo, List.append_assoc]

/-- A text without quotation marks shows no strings. -/
theorem of_bare (bare : 34 ∉ text) : ShowsBodies text [] := by
  intro found
  induction text with
  | nil =>
      simp
  | cons byte rest inductionHypothesis =>
      rw [List.mem_cons, not_or] at bare
      rw [StringScan.read_cons, StringScan.next, if_neg (Ne.symm bare.1)]
      exact inductionHypothesis bare.2

/-- Items separated by commas show their strings in order. -/
theorem separated_cons
    {items : List Bytes}
    (shows : ShowsBodies first firstBodies)
    (showsRest : ShowsBodies (Json.separated items) secondBodies) :
    ShowsBodies (Json.separated (first :: items))
      (firstBodies ++ secondBodies) := by
  cases items with
  | nil =>
      have noBodies : secondBodies = [] :=
        showsRest.unique (of_bare (by simp [Json.separated]))
      simpa [Json.separated, noBodies] using shows
  | cons item rest =>
      have comma : ShowsBodies [44] [] := of_bare (by decide)
      exact shows.append (comma.append showsRest)

end ShowsBodies

namespace Json

/-- Bytes without a special meaning stay inside the string. -/
theorem read_plain
    (found : List Bytes)
    {body text : Bytes}
    (noQuote : 34 ∉ text)
    (noBackslash : 92 ∉ text) :
    (StringScan.inside found body).read text =
      .inside found (body ++ text) := by
  induction text generalizing body with
  | nil =>
      simp
  | cons byte rest inductionHypothesis =>
      rw [List.mem_cons, not_or] at noQuote noBackslash
      rw [StringScan.read_cons, StringScan.next,
        if_neg (Ne.symm noQuote.1), if_neg (Ne.symm noBackslash.1),
        inductionHypothesis noQuote.2 noBackslash.2]
      simp

/-- An escaped byte is plain, or a backslash, one byte and plain digits. -/
theorem escapeByte_shape :
    ∀ value < 256,
      (34 ∉ escapeByte (UInt8.ofNat value) ∧
        92 ∉ escapeByte (UInt8.ofNat value)) ∨
      ((escapeByte (UInt8.ofNat value)).head? = some 92 ∧
        2 ≤ (escapeByte (UInt8.ofNat value)).length ∧
        34 ∉ (escapeByte (UInt8.ofNat value)).drop 2 ∧
        92 ∉ (escapeByte (UInt8.ofNat value)).drop 2) := by
  decide +kernel

/-- An escaped byte stays inside the string. -/
theorem read_escapeByte
    (found : List Bytes)
    (body : Bytes)
    (byte : UInt8) :
    (StringScan.inside found body).read (escapeByte byte) =
      .inside found (body ++ escapeByte byte) := by
  have shape := escapeByte_shape byte.toNat byte.toNat_lt
  rw [UInt8.ofNat_toNat] at shape
  rcases shape with ⟨noQuote, noBackslash⟩ |
    ⟨first, long, noQuote, noBackslash⟩
  · exact read_plain found noQuote noBackslash
  · rcases shape : escapeByte byte with _ | ⟨backslash, _ | ⟨kind, digits⟩⟩
    · simp [shape] at first
    · simp [shape] at long
    · simp only [shape, List.head?_cons, Option.some.injEq,
        List.drop_succ_cons, List.drop_zero] at first noQuote noBackslash
      subst first
      rw [StringScan.read_cons, StringScan.read_cons, StringScan.next,
        if_neg (by decide), if_pos rfl, StringScan.next,
        read_plain found noQuote noBackslash]
      simp

theorem read_flatMap_escapeByte
    (found : List Bytes)
    (body value : Bytes) :
    (StringScan.inside found body).read (value.flatMap escapeByte) =
      .inside found (body ++ value.flatMap escapeByte) := by
  induction value generalizing body with
  | nil =>
      simp
  | cons byte rest inductionHypothesis =>
      rw [List.flatMap_cons, StringScan.read_append, read_escapeByte,
        inductionHypothesis, List.append_assoc]

/-- A quoted string shows itself. -/
theorem showsBodies_quoted (value : Bytes) :
    ShowsBodies (quoted value) [value.flatMap escapeByte] := by
  intro found
  rw [quoted, List.cons_append, StringScan.read_cons,
    StringScan.read_append, StringScan.next, if_pos rfl,
    read_flatMap_escapeByte, StringScan.read_cons, StringScan.read_nil,
    StringScan.next, if_pos rfl]
  simp

/-- How many bytes stand for the first one. -/
def escapedLength (text : Bytes) : Nat :=
  if text[0]? ≠ some 92 then 1
  else if text[1]? = some 117 then 6
  else 2

theorem escapedLength_escapeByte :
    ∀ value < 256,
      escapedLength (escapeByte (UInt8.ofNat value)) =
        (escapeByte (UInt8.ofNat value)).length := by
  decide +kernel

/-- The value of a lower-case hexadecimal digit. -/
def hexDigitValue (digit : UInt8) : UInt8 :=
  if digit < 58 then digit - 48 else digit - 87

/-- The byte that an escaped one stands for. -/
def unescapeByte : Bytes → UInt8
  | [byte] => byte
  | [_, kind] =>
      if kind = 98 then 8
      else if kind = 116 then 9
      else if kind = 110 then 10
      else if kind = 102 then 12
      else if kind = 114 then 13
      else kind
  | [_, _, _, _, high, low] =>
      16 * hexDigitValue high + hexDigitValue low
  | _ => 0

theorem unescapeByte_escapeByte :
    ∀ value < 256,
      unescapeByte (escapeByte (UInt8.ofNat value)) =
        UInt8.ofNat value := by
  decide +kernel

/-- The first escaped byte of a text ends where its own text says. -/
theorem take_escapedLength
    (byte : UInt8)
    (rest : Bytes) :
    (escapeByte byte ++ rest).take
        (escapedLength (escapeByte byte ++ rest)) =
      escapeByte byte := by
  have ownLength := escapedLength_escapeByte byte.toNat byte.toNat_lt
  rw [UInt8.ofNat_toNat] at ownLength
  have sameLength :
      escapedLength (escapeByte byte ++ rest) =
        (escapeByte byte).length := by
    rw [← ownLength]
    rcases shape : escapeByte byte with _ | ⟨first, _ | ⟨second, digits⟩⟩
    · rw [shape] at ownLength
      cases ownLength
    · have notBackslash : first ≠ 92 := by
        intro isBackslash
        rw [shape, isBackslash] at ownLength
        cases ownLength
      simp [escapedLength, notBackslash]
    · simp [escapedLength]
  rw [sameLength, List.take_left]

/-- Escaped texts can be read back. -/
theorem flatMap_escapeByte_injective
    {first second : Bytes}
    (same :
      first.flatMap escapeByte = second.flatMap escapeByte) :
    first = second := by
  have nonempty : ∀ byte, escapeByte byte ≠ [] := by
    intro byte isEmpty
    have ownLength := escapedLength_escapeByte byte.toNat byte.toNat_lt
    rw [UInt8.ofNat_toNat, isEmpty] at ownLength
    cases ownLength
  induction first generalizing second with
  | nil =>
      cases second with
      | nil =>
          rfl
      | cons byte rest =>
          simp [nonempty] at same
  | cons byte rest inductionHypothesis =>
      cases second with
      | nil =>
          simp [nonempty] at same
      | cons other others =>
          rw [List.flatMap_cons, List.flatMap_cons] at same
          have sameEscaped : escapeByte byte = escapeByte other := by
            rw [← take_escapedLength byte, same, take_escapedLength]
          have sameByte : byte = other := by
            have decoded :=
              unescapeByte_escapeByte byte.toNat byte.toNat_lt
            have otherDecoded :=
              unescapeByte_escapeByte other.toNat other.toNat_lt
            rw [UInt8.ofNat_toNat] at decoded otherDecoded
            rw [← decoded, sameEscaped, otherDecoded]
          rw [sameEscaped] at same
          rw [sameByte,
            inductionHypothesis (List.append_cancel_left same)]

theorem decimalDigits_bare (value : Nat) : 34 ∉ decimalDigits value := by
  intro member
  unfold decimalDigits at member
  split at member
  · simp at member
  · simp only [List.mem_reverse, List.mem_map] at member
    obtain ⟨digit, isDigit, isQuote⟩ := member
    have small : digit < 10 :=
      Nat.digits_lt_base (by decide) isDigit
    have sameNat := congrArg UInt8.toNat isQuote
    simp only [UInt8.toNat_ofNat', UInt8.reduceToNat] at sameNat
    omega

theorem toDecimal_bare (value : Int) : 34 ∉ toDecimal value := by
  unfold toDecimal
  split
  · simp [decimalDigits_bare]
  · exact decimalDigits_bare _

mutual

/-- The compact text of a value shows its strings and keys. -/
theorem showsBodies_serialize
    {renderFloat : UInt64 → Bytes}
    (bare : ∀ bits, 34 ∉ renderFloat bits) :
    ∀ json : Json,
      ShowsBodies (serialize renderFloat json)
        (json.strings.map (List.flatMap escapeByte))
  | .null => .of_bare (show 34 ∉ bytes "null" by decide)
  | .boolean true => .of_bare (show 34 ∉ bytes "true" by decide)
  | .boolean false => .of_bare (show 34 ∉ bytes "false" by decide)
  | .numberInteger value => .of_bare (toDecimal_bare value.toInt)
  | .numberUnsigned value => .of_bare (toDecimal_bare value.toNat)
  | .numberFloat bits => .of_bare (bare bits)
  | .string value => showsBodies_quoted value
  | .array elements => by
      have opened : ShowsBodies [91] [] := .of_bare (by decide)
      have closed : ShowsBodies [93] [] := .of_bare (by decide)
      have shows :=
        (opened.append (showsBodies_serializeElements bare elements)).append
          closed
      simpa [serialize, strings] using shows
  | .object members => by
      have opened : ShowsBodies [123] [] := .of_bare (by decide)
      have closed : ShowsBodies [125] [] := .of_bare (by decide)
      have shows :=
        (opened.append (showsBodies_serializeMembers bare members)).append
          closed
      simpa [serialize, strings] using shows

theorem showsBodies_serializeElements
    {renderFloat : UInt64 → Bytes}
    (bare : ∀ bits, 34 ∉ renderFloat bits) :
    ∀ elements : List Json,
      ShowsBodies (separated (serializeElements renderFloat elements))
        ((elementStrings elements).map (List.flatMap escapeByte))
  | [] => .of_bare (by simp [serializeElements, separated])
  | element :: rest => by
      have shows :=
        (showsBodies_serialize bare element).separated_cons
          (showsBodies_serializeElements bare rest)
      simpa [serializeElements, elementStrings] using shows

theorem showsBodies_serializeMembers
    {renderFloat : UInt64 → Bytes}
    (bare : ∀ bits, 34 ∉ renderFloat bits) :
    ∀ members : List (Bytes × Json),
      ShowsBodies (separated (serializeMembers renderFloat members))
        ((memberStrings members).map (List.flatMap escapeByte))
  | [] => .of_bare (by simp [serializeMembers, separated])
  | (key, value) :: rest => by
      have colon : ShowsBodies [58] [] := .of_bare (by decide)
      have member :=
        (showsBodies_quoted key).append
          (colon.append (showsBodies_serialize bare value))
      have shows :=
        member.separated_cons (showsBodies_serializeMembers bare rest)
      simpa [serializeMembers, memberStrings] using shows

end

/-- Values with one compact text have the same strings and keys. -/
theorem strings_eq_of_serialize_eq
    {renderFloat : UInt64 → Bytes}
    (bare : ∀ bits, 34 ∉ renderFloat bits)
    {first second : Json}
    (same :
      serialize renderFloat first = serialize renderFloat second) :
    first.strings = second.strings := by
  have shows := showsBodies_serialize bare first
  rw [same] at shows
  have sameBodies := shows.unique (showsBodies_serialize bare second)
  exact List.map_injective_iff.mpr
    (fun _ _ sameBody => flatMap_escapeByte_injective sameBody) sameBodies

end Json

theorem showsStrings_checkingLibrary (known : List (Bytes × Json)) :
    ShowsStrings (checkingLibrary known) where
  same := by
    intro first second text written writtenToo
    simp only [checkingLibrary] at written writtenToo
    split at written
    · split at writtenToo
      · have same := written.trans writtenToo.symm
        have bare : 34 ∉ bytes "0.0" := by
          decide
        exact Json.strings_eq_of_serialize_eq (fun _ => bare)
          (Except.ok.inj same)
      · cases writtenToo
    · cases written

end TgGate.Library
