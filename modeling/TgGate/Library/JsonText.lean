import TgGate.Library.JsonDocument
import TgGate.Library.Utf8

namespace TgGate.Library

/-!
# The text of `nlohmann::json` values

`dump` refuses a value that contains a string or a key which is not valid
UTF-8, and its output is valid otherwise; `parse` accepts valid texts only.
`ChecksUtf8` states this of the library parameter.  `serialize` is the compact
output and `checkingLibrary` an instance that behaves as stated.

A text that `dump` wrote is parsed to the value again; only the integers that
are not negative come back with another type, which `reread` describes.
-/

namespace Json

mutual

/-- All strings and keys of a value. -/
def strings : Json → List Bytes
  | .string value => [value]
  | .array elements => elementStrings elements
  | .object members => memberStrings members
  | _ => []

/-- The strings and keys of the elements of an array. -/
def elementStrings : List Json → List Bytes
  | [] => []
  | element :: rest => strings element ++ elementStrings rest

/-- The strings and keys of the members of an object. -/
def memberStrings : List (Bytes × Json) → List Bytes
  | [] => []
  | (key, value) :: rest =>
      key :: strings value ++ memberStrings rest

end

/-- Every string and key is valid UTF-8. -/
def ValidText (json : Json) : Prop :=
  ∀ text ∈ json.strings, ValidUtf8 text

instance (json : Json) : Decidable json.ValidText :=
  inferInstanceAs (Decidable (∀ text ∈ json.strings, ValidUtf8 text))

theorem mem_elementStrings_iff
    {elements : List Json}
    {text : Bytes} :
    text ∈ elementStrings elements ↔
      ∃ element ∈ elements, text ∈ element.strings := by
  induction elements with
  | nil =>
      simp [elementStrings]
  | cons element rest inductionHypothesis =>
      simp [elementStrings, inductionHypothesis]

theorem mem_memberStrings_iff
    {members : List (Bytes × Json)}
    {text : Bytes} :
    text ∈ memberStrings members ↔
      ∃ member ∈ members,
        text = member.1 ∨ text ∈ member.2.strings := by
  induction members with
  | nil =>
      simp [memberStrings]
  | cons member rest inductionHypothesis =>
      rcases member with ⟨key, value⟩
      simp [memberStrings, inductionHypothesis, or_assoc]

@[simp] theorem validText_string {value : Bytes} :
    (Json.string value).ValidText ↔ ValidUtf8 value := by
  simp [ValidText, strings]

@[simp] theorem validText_boolean (value : Bool) :
    (Json.boolean value).ValidText := by
  simp [ValidText, strings]

@[simp] theorem validText_numberInteger (value : Int64) :
    (Json.numberInteger value).ValidText := by
  simp [ValidText, strings]

@[simp] theorem validText_null :
    Json.null.ValidText := by
  simp [ValidText, strings]

@[simp] theorem validText_array {elements : List Json} :
    (Json.array elements).ValidText ↔
      ∀ element ∈ elements, element.ValidText := by
  simp only [ValidText, strings, mem_elementStrings_iff]
  constructor
  · intro valid element member text inside
    exact valid text ⟨element, member, inside⟩
  · rintro valid text ⟨element, member, inside⟩
    exact valid element member text inside

@[simp] theorem validText_object {members : List (Bytes × Json)} :
    (Json.object members).ValidText ↔
      ∀ member ∈ members,
        ValidUtf8 member.1 ∧ member.2.ValidText := by
  simp only [ValidText, strings, mem_memberStrings_iff]
  constructor
  · intro valid member inMembers
    exact ⟨valid member.1 ⟨member, inMembers, .inl rfl⟩,
      fun text inside => valid text ⟨member, inMembers, .inr inside⟩⟩
  · rintro valid text ⟨member, inMembers, rfl | inside⟩
    · exact (valid member inMembers).1
    · exact (valid member inMembers).2 text inside

theorem mem_insertSorted_iff
    {key : Bytes}
    {value : Json}
    {members : List (Bytes × Json)}
    {member : Bytes × Json} :
    member ∈ insertSorted key value members ↔
      member = (key, value) ∨ member ∈ members := by
  induction members with
  | nil =>
      simp [insertSorted]
  | cons head rest inductionHypothesis =>
      rcases head with ⟨other, otherValue⟩
      unfold insertSorted
      split
      · simp
      · simp only [List.mem_cons, inductionHypothesis]
        tauto

/-- A literal object has no members but those written. -/
theorem mem_of_mem_foldl_emplaceMember
    {initial members : List (Bytes × Json)}
    {member : Bytes × Json}
    (found : member ∈ members.foldl emplaceMember initial) :
    member ∈ initial ∨ member ∈ members := by
  induction members generalizing initial with
  | nil =>
      exact .inl found
  | cons head rest inductionHypothesis =>
      rcases inductionHypothesis found with inInitial | inRest
      · unfold emplaceMember at inInitial
        split at inInitial
        · exact .inl inInitial
        · rcases mem_insertSorted_iff.mp inInitial with rfl | earlier
          · exact .inr List.mem_cons_self
          · exact .inl earlier
      · exact .inr (List.mem_cons_of_mem _ inRest)

/-- An object written with valid keys and values is valid. -/
theorem validText_ofMembers
    {members : List (Bytes × Json)}
    (valid :
      ∀ member ∈ members, ValidUtf8 member.1 ∧ member.2.ValidText) :
    (ofMembers members).ValidText := by
  refine validText_object.mpr fun member found => ?_
  rcases mem_of_mem_foldl_emplaceMember found with inNone | inMembers
  · cases inNone
  · exact valid member inMembers

/-- A member found in an object is one of its members. -/
theorem mem_of_lookupMember
    {members : List (Bytes × Json)}
    {key : Bytes}
    {value : Json}
    (found : lookupMember key members = some value) :
    (key, value) ∈ members := by
  induction members with
  | nil =>
      cases found
  | cons head rest inductionHypothesis =>
      rcases head with ⟨other, otherValue⟩
      rw [lookupMember_cons] at found
      split at found
      · next same =>
          obtain rfl := Option.some.inj found
          rw [same]
          exact List.mem_cons_self
      · exact List.mem_cons_of_mem _ (inductionHypothesis found)

/-- The members of a valid object are valid. -/
theorem ValidText.of_find?
    {json value : Json}
    {key : Bytes}
    (valid : json.ValidText)
    (found : json.find? key = some value) :
    value.ValidText := by
  cases json with
  | object members =>
      exact (validText_object.mp valid _ (mem_of_lookupMember found)).2
  | null | boolean | numberInteger | numberUnsigned | numberFloat
  | string | array =>
      cases found

/-- The hexadecimal digit of a value below 16. -/
def hexDigit (value : UInt8) : UInt8 :=
  if value < 10 then 48 + value else 87 + value

/-- How one byte of a string is written. -/
def escapeByte (byte : UInt8) : Bytes :=
  if byte = 8 then bytes "\\b"
  else if byte = 9 then bytes "\\t"
  else if byte = 10 then bytes "\\n"
  else if byte = 12 then bytes "\\f"
  else if byte = 13 then bytes "\\r"
  else if byte = 34 then bytes "\\\""
  else if byte = 92 then bytes "\\\\"
  else if byte < 32 then
    bytes "\\u00" ++ [hexDigit (byte >>> 4), hexDigit (byte &&& 0x0f)]
  else [byte]

/-- A string in quotation marks. -/
def quoted (value : Bytes) : Bytes :=
  34 :: value.flatMap escapeByte ++ [34]

/-- Items separated by commas. -/
def separated : List Bytes → Bytes
  | [] => []
  | [item] => item
  | item :: rest => item ++ 44 :: separated rest

mutual

/-- The compact text of a value; how floats are written is a parameter. -/
def serialize (renderFloat : UInt64 → Bytes) : Json → Bytes
  | .null => bytes "null"
  | .boolean value => bytes (if value then "true" else "false")
  | .numberInteger value => toDecimal value.toInt
  | .numberUnsigned value => toDecimal value.toNat
  | .numberFloat bits => renderFloat bits
  | .string value => quoted value
  | .array elements =>
      91 :: separated (serializeElements renderFloat elements) ++ [93]
  | .object members =>
      123 :: separated (serializeMembers renderFloat members) ++ [125]

/-- The texts of the elements of an array. -/
def serializeElements
    (renderFloat : UInt64 → Bytes) : List Json → List Bytes
  | [] => []
  | element :: rest =>
      serialize renderFloat element ::
        serializeElements renderFloat rest

/-- The texts of the members of an object. -/
def serializeMembers
    (renderFloat : UInt64 → Bytes) :
    List (Bytes × Json) → List Bytes
  | [] => []
  | (key, value) :: rest =>
      (quoted key ++ 58 :: serialize renderFloat value) ::
        serializeMembers renderFloat rest

end

/-- ASCII bytes are escaped by ASCII bytes. -/
theorem escapeByte_ascii :
    ∀ value < 128,
      (escapeByte (UInt8.ofNat value)).all (· < 0x80) = true := by
  -- `all` walks the escape; a bounded `∀` would try every byte for each value.
  decide +kernel

/-- Other bytes are written as they are. -/
theorem escapeByte_of_large :
    ∀ value < 256,
      128 ≤ value →
      escapeByte (UInt8.ofNat value) = [UInt8.ofNat value] := by
  decide +kernel

/-- Escaping keeps a text valid. -/
theorem validUtf8_quoted
    {value : Bytes}
    (valid : ValidUtf8 value) :
    ValidUtf8 (quoted value) := by
  have escaped : ValidUtf8 (value.flatMap escapeByte) := by
    refine valid.flatMap_bytes ?_ ?_
    · intro byte small escaped member
      have ascii :=
        escapeByte_ascii byte.toNat (UInt8.lt_iff_toNat_lt.mp small)
      rw [UInt8.ofNat_toNat, List.all_eq_true] at ascii
      exact of_decide_eq_true (ascii escaped member)
    · intro byte large
      have unchanged :=
        escapeByte_of_large byte.toNat byte.toNat_lt
          (UInt8.le_iff_toNat_le.mp large)
      rwa [UInt8.ofNat_toNat] at unchanged
  exact ((validUtf8_bytes "\"").append escaped).append
    (validUtf8_bytes "\"")

theorem validUtf8_separated
    {items : List Bytes}
    (valid : ∀ item ∈ items, ValidUtf8 item) :
    ValidUtf8 (separated items) := by
  induction items with
  | nil =>
      exact validUtf8_nil
  | cons item rest inductionHypothesis =>
      have itemValid := valid item List.mem_cons_self
      have restValid :=
        inductionHypothesis fun other member =>
          valid other (List.mem_cons_of_mem _ member)
      cases rest with
      | nil =>
          exact itemValid
      | cons next rest =>
          exact itemValid.append
            ((validUtf8_bytes ",").append restValid)

theorem validUtf8_decimalDigits (value : Nat) :
    ValidUtf8 (decimalDigits value) := by
  refine validUtf8_of_ascii fun byte member => ?_
  unfold decimalDigits at member
  split at member
  · rw [List.mem_singleton.mp member]
    decide
  · simp only [List.mem_reverse, List.mem_map] at member
    obtain ⟨digit, isDigit, rfl⟩ := member
    have small : digit < 10 :=
      Nat.digits_lt_base (by decide) isDigit
    rw [UInt8.lt_iff_toNat_lt, UInt8.toNat_ofNat']
    simp
    omega

theorem validUtf8_toDecimal (value : Int) :
    ValidUtf8 (toDecimal value) := by
  unfold toDecimal
  split
  · exact (validUtf8_bytes "-").append
      (validUtf8_decimalDigits value.natAbs)
  · exact validUtf8_decimalDigits value.natAbs

mutual

/-- The text of a value with valid strings is valid. -/
theorem validUtf8_serialize
    {renderFloat : UInt64 → Bytes}
    (renders : ∀ bits, ValidUtf8 (renderFloat bits)) :
    ∀ json : Json,
      json.ValidText → ValidUtf8 (serialize renderFloat json)
  | .null, _ => validUtf8_bytes "null"
  | .boolean value, _ =>
      validUtf8_bytes (if value then "true" else "false")
  | .numberInteger value, _ => validUtf8_toDecimal value.toInt
  | .numberUnsigned value, _ => validUtf8_toDecimal value.toNat
  | .numberFloat bits, _ => renders bits
  | .string _, valid => validUtf8_quoted (validText_string.mp valid)
  | .array elements, valid =>
      ((validUtf8_bytes "[").append
        (validUtf8_separated
          (validUtf8_serializeElements renders elements
            (validText_array.mp valid)))).append
        (validUtf8_bytes "]")
  | .object members, valid =>
      ((validUtf8_bytes "\x7b").append
        (validUtf8_separated
          (validUtf8_serializeMembers renders members
            (validText_object.mp valid)))).append
        (validUtf8_bytes "\x7d")

theorem validUtf8_serializeElements
    {renderFloat : UInt64 → Bytes}
    (renders : ∀ bits, ValidUtf8 (renderFloat bits)) :
    ∀ elements : List Json,
      (∀ element ∈ elements, element.ValidText) →
      ∀ item ∈ serializeElements renderFloat elements, ValidUtf8 item
  | [], _, _, member => by
      simp [serializeElements] at member
  | element :: rest, valid, item, member => by
      simp only [serializeElements, List.mem_cons] at member
      rcases member with rfl | inRest
      · exact validUtf8_serialize renders element
          (valid element List.mem_cons_self)
      · exact validUtf8_serializeElements renders rest
          (fun other inside =>
            valid other (List.mem_cons_of_mem _ inside))
          item inRest

theorem validUtf8_serializeMembers
    {renderFloat : UInt64 → Bytes}
    (renders : ∀ bits, ValidUtf8 (renderFloat bits)) :
    ∀ members : List (Bytes × Json),
      (∀ member ∈ members,
        ValidUtf8 member.1 ∧ member.2.ValidText) →
      ∀ item ∈ serializeMembers renderFloat members, ValidUtf8 item
  | [], _, _, found => by
      simp [serializeMembers] at found
  | (key, value) :: rest, valid, item, found => by
      simp only [serializeMembers, List.mem_cons] at found
      rcases found with rfl | inRest
      · have here := valid (key, value) List.mem_cons_self
        exact (validUtf8_quoted here.1).append
          ((validUtf8_bytes ":").append
            (validUtf8_serialize renders value here.2))
      · exact validUtf8_serializeMembers renders rest
          (fun other inside =>
            valid other (List.mem_cons_of_mem _ inside))
          item inRest

end

end Json

/-- How the library treats UTF-8. -/
structure ChecksUtf8 (library : JsonLibrary) : Prop where
  rejects :
    ∀ json,
      ¬ json.ValidText →
      library.dump json = .error .typeError
  serializes :
    ∀ json,
      json.ValidText →
      ∃ text, library.dump json = .ok text ∧ ValidUtf8 text
  parses :
    ∀ {text json},
      library.parse text = .ok json →
      json.ValidText

/-- Only valid texts are written, as valid text. -/
theorem ChecksUtf8.of_dump
    {library : JsonLibrary}
    {json : Json}
    {text : Bytes}
    (checks : ChecksUtf8 library)
    (dumped : library.dump json = .ok text) :
    json.ValidText ∧ ValidUtf8 text := by
  have valid : json.ValidText := by
    by_contra invalid
    cases dumped.symm.trans (checks.rejects json invalid)
  obtain ⟨other, otherDumped, validOther⟩ := checks.serializes json valid
  obtain rfl := Except.ok.inj (dumped.symm.trans otherDumped)
  exact ⟨valid, validOther⟩

/-- The text of a value shows all its strings and keys. -/
structure ShowsStrings (library : JsonLibrary) : Prop where
  same :
    ∀ {first second : Json} {text : Bytes},
      library.dump first = .ok text →
      library.dump second = .ok text →
      first.strings = second.strings

namespace Json

mutual

/--
What `parse` reads in the text of a value without floats: the value, with the
integers that are not negative as unsigned ones.
-/
def reread : Json → Json
  | .numberInteger value =>
      if 0 ≤ value then
        .numberUnsigned value.toUInt64
      else
        .numberInteger value
  | .array elements => .array (rereadElements elements)
  | .object members => .object (rereadMembers members)
  | value => value

/-- The elements of an array, read back. -/
def rereadElements : List Json → List Json
  | [] => []
  | element :: rest => reread element :: rereadElements rest

/-- The members of an object, read back. -/
def rereadMembers : List (Bytes × Json) → List (Bytes × Json)
  | [] => []
  | (key, value) :: rest => (key, reread value) :: rereadMembers rest

end

theorem rereadElements_eq_map (elements : List Json) :
    rereadElements elements = elements.map reread := by
  induction elements with
  | nil =>
      rfl
  | cons element rest inductionHypothesis =>
      rw [rereadElements, inductionHypothesis, List.map_cons]

@[simp] theorem reread_string (value : Bytes) :
    (Json.string value).reread = .string value := by
  simp [reread]

@[simp] theorem reread_boolean (value : Bool) :
    (Json.boolean value).reread = .boolean value := by
  simp [reread]

@[simp] theorem reread_numberUnsigned (value : UInt64) :
    (Json.numberUnsigned value).reread = .numberUnsigned value := by
  simp [reread]

@[simp] theorem reread_array (elements : List Json) :
    (Json.array elements).reread = .array (elements.map reread) := by
  rw [reread, rereadElements_eq_map]

theorem lookupMember_rereadMembers
    (key : Bytes)
    (members : List (Bytes × Json)) :
    lookupMember key (rereadMembers members) =
      (lookupMember key members).map reread := by
  induction members with
  | nil =>
      rfl
  | cons member rest inductionHypothesis =>
      rcases member with ⟨other, value⟩
      simp only [rereadMembers, lookupMember_cons, inductionHypothesis]
      split <;> rfl

/-- Reading back keeps the keys and reads each member back. -/
@[simp] theorem find?_reread (json : Json) (key : Bytes) :
    json.reread.find? key = (json.find? key).map reread := by
  cases json with
  | object members =>
      rw [reread]
      exact lookupMember_rereadMembers key members
  | numberInteger value =>
      unfold reread
      split <;> rfl
  | null | boolean | numberUnsigned | numberFloat | string | array =>
      simp [reread, find?]

@[simp] theorem keys_reread (json : Json) :
    json.reread.keys = json.keys := by
  cases json with
  | object members =>
      rw [reread]
      induction members with
      | nil =>
          rfl
      | cons member rest inductionHypothesis =>
          rcases member with ⟨key, value⟩
          exact congrArg (key :: ·) inductionHypothesis
  | numberInteger value =>
      unfold reread
      split <;> rfl
  | null | boolean | numberUnsigned | numberFloat | string | array =>
      simp [reread, keys]

@[simp] theorem isObject_reread (json : Json) :
    json.reread.isObject = json.isObject := by
  cases json with
  | numberInteger value =>
      unfold reread
      split <;> rfl
  | null | boolean | numberUnsigned | numberFloat | string | array |
      object =>
      simp [reread, isObject]

/-- A member of a written object is converted as it is read back. -/
theorem valueOr_reread_ofMembers
    {Target : Type}
    (members : List (Bytes × Json))
    (key : Bytes)
    (get : Json → Except JsonException Target)
    (fallback : Target) :
    (ofMembers members).reread.valueOr key get fallback =
      match lookupMember key members with
      | some value => get value.reread
      | none => .ok fallback := by
  unfold valueOr
  rw [isObject_reread, isObject_ofMembers, if_pos rfl, find?_reread,
    find?_ofMembers]
  cases lookupMember key members <;> rfl

/-- A written list of strings is read back. -/
theorem getStrings_reread_array (values : List Bytes) :
    (Json.array (values.map .string)).reread.getStrings =
      .ok values := by
  rw [reread_array, getStrings]
  induction values with
  | nil =>
      rfl
  | cons value rest inductionHypothesis =>
      rw [List.map_cons, List.map_cons, List.mapM_cons,
        inductionHypothesis, reread_string]
      rfl

/-- The keys of a written object are the keys it was written with. -/
theorem key_of_mem_keys_ofMembers
    {members : List (Bytes × Json)}
    {key : Bytes}
    (member : key ∈ (ofMembers members).keys) :
    key ∈ members.map Prod.fst := by
  obtain ⟨entry, inObject, rfl⟩ := List.mem_map.mp member
  rcases mem_of_mem_foldl_emplaceMember inObject with
    inNone | inMembers
  · cases inNone
  · exact List.mem_map_of_mem inMembers

end Json

/-- The library reads what it wrote for a document, with a line end. -/
structure ReadsBack (library : DocumentLibrary) (document : Json) :
    Prop where
  parses :
    ∀ {width text},
      library.dumpIndented width document = .ok text →
      library.parse (text ++ bytes "\n") = .ok document.reread

/-- A library that knows the texts of a few values. -/
def checkingLibrary (known : List (Bytes × Json)) : JsonLibrary where
  parse text :=
    match known.find? fun entry => entry.1 = text with
    | some (_, json) =>
        if json.ValidText then .ok json else .error .parseError
    | none => .error .parseError
  dump json :=
    if json.ValidText then
      .ok (json.serialize fun _ => bytes "0.0")
    else
      .error .typeError
  floatToInt64 _ := 0
  floatToUInt32 _ := 0

theorem checksUtf8_checkingLibrary (known : List (Bytes × Json)) :
    ChecksUtf8 (checkingLibrary known) where
  rejects json invalid := by
    simp [checkingLibrary, invalid]
  serializes json valid :=
    ⟨_, if_pos valid,
      Json.validUtf8_serialize (fun _ => validUtf8_bytes "0.0") json
        valid⟩
  parses := by
    intro text json parsed
    simp only [checkingLibrary] at parsed
    split at parsed
    · split at parsed
      · next valid =>
          obtain rfl := Except.ok.inj parsed
          exact valid
      · cases parsed
    · cases parsed

/-- A compact text of a document without floats. -/
def compactText (document : Json) : Bytes :=
  document.serialize fun _ => []

/-- A library that reads the compact text of one document. -/
def readingLibrary (document : Json) : DocumentLibrary where
  parse text :=
    if text = compactText document then
      .ok document
    else
      .error .parseError
  dump _ := .ok []
  dumpIndented _ _ := .ok []
  floatToInt64 _ := 0
  floatToUInt32 _ := 0
  floatToInt32 _ := 0
  floatToUInt16 _ := 0
  floatToUInt64 _ := 0

end TgGate.Library
