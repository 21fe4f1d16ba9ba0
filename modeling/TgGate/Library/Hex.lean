import TgGate.Library.ByteString

namespace TgGate.Library

/-!
# Hexadecimal text

`hexEncode` is what `std::setw(2)` and `std::hex` write for a sequence of
bytes.  `hexDecode` reads two characters at a time with `operator>>`, which
skips leading white space, accepts a sign and a `0x` prefix and stops at the
first other character.
-/

/-- `std::isspace` in the C locale, as a stream skips it. -/
def isWhitespace (character : UInt8) : Bool :=
  character = 32 || (9 ≤ character && character ≤ 13)

/-- `std::isxdigit`. -/
def isXDigit (character : UInt8) : Bool :=
  (48 ≤ character && character ≤ 57) ||
    (65 ≤ character && character ≤ 70) ||
    (97 ≤ character && character ≤ 102)

/-- The value of a hexadecimal digit. -/
def digitValue (character : UInt8) : Nat :=
  if character ≤ 57 then
    character.toNat - 48
  else if character ≤ 70 then
    character.toNat - 55
  else
    character.toNat - 87

/-- The lower-case digit of a value below 16. -/
def hexCharacter (value : Nat) : UInt8 :=
  (bytes "0123456789abcdef").getD value 0

/-- Read an optional sign; tells whether it was a minus. -/
def readSign : Bytes → Bool × Bytes
  | 43 :: rest => (false, rest)
  | 45 :: rest => (true, rest)
  | text => (false, text)

/-- Drop a `0x` or `0X` prefix. -/
def dropHexPrefix : Bytes → Bytes
  | 48 :: 120 :: rest => rest
  | 48 :: 88 :: rest => rest
  | text => text

/--
`stream >> std::hex >> value` for an `unsigned int`: none when the stream
fails.  A minus sign negates modulo the width of the type.
-/
def readHexUnsigned (text : Bytes) : Option Nat :=
  let (negative, unsigned) := readSign (text.dropWhile isWhitespace)
  let digits := (dropHexPrefix unsigned).takeWhile isXDigit
  let value :=
    digits.foldl
      (fun value character => 16 * value + digitValue character) 0
  if digits.isEmpty || 2 ^ 32 ≤ value then
    none
  else if negative then
    some ((2 ^ 32 - value) % 2 ^ 32)
  else
    some value

/-- `hex_encode`. -/
def hexEncode (content : Bytes) : Bytes :=
  content.flatMap fun byte =>
    [hexCharacter (byte.toNat / 16), hexCharacter (byte.toNat % 16)]

/-- The loop of `hex_decode`, two characters at a time. -/
def decodePairs : Bytes → Option Bytes
  | first :: second :: rest =>
      match readHexUnsigned [first, second] with
      | none => none
      | some byte =>
          if byte > 0xff then
            none
          else
            (decodePairs rest).map (UInt8.ofNat byte :: ·)
  | _ => some []

/-- `hex_decode`. -/
def hexDecode (value : Bytes) : Option Bytes :=
  if value.isEmpty || value.length % 2 ≠ 0 then
    none
  else
    decodePairs value

/-- The two digits of a byte are read back as that byte. -/
theorem readHexUnsigned_hexCharacters :
    ∀ value < 256,
      readHexUnsigned
          [hexCharacter (value / 16), hexCharacter (value % 16)] =
        some value := by
  decide +kernel

@[simp] theorem hexEncode_nil : hexEncode [] = [] :=
  rfl

@[simp] theorem hexEncode_cons (byte : UInt8) (rest : Bytes) :
    hexEncode (byte :: rest) =
      hexCharacter (byte.toNat / 16) ::
        hexCharacter (byte.toNat % 16) :: hexEncode rest :=
  rfl

@[simp] theorem length_hexEncode (content : Bytes) :
    (hexEncode content).length = 2 * content.length := by
  induction content with
  | nil =>
      rfl
  | cons byte rest inductionHypothesis =>
      simp only [hexEncode_cons, List.length_cons, inductionHypothesis]
      omega

@[simp] theorem hexEncode_eq_nil_iff {content : Bytes} :
    hexEncode content = [] ↔ content = [] := by
  rw [← List.length_eq_zero_iff, length_hexEncode]
  simp

/-- Reading written pairs gives the bytes they were written from. -/
theorem decodePairs_hexEncode (content : Bytes) :
    decodePairs (hexEncode content) = some content := by
  induction content with
  | nil =>
      rfl
  | cons byte rest inductionHypothesis =>
      rw [hexEncode_cons]
      unfold decodePairs
      rw [readHexUnsigned_hexCharacters byte.toNat byte.toNat_lt]
      have small : ¬ byte.toNat > 0xff := by
        have bound := byte.toNat_lt
        omega
      simp [small, inductionHypothesis]

/-- Decoding inverts encoding; nothing but the empty text is lost. -/
theorem hexDecode_hexEncode
    {content : Bytes}
    (nonempty : content ≠ []) :
    hexDecode (hexEncode content) = some content := by
  unfold hexDecode
  rw [decodePairs_hexEncode]
  simp [nonempty]

/-- The empty text is not the encoding of anything. -/
@[simp] theorem hexDecode_nil : hexDecode [] = none :=
  rfl

/-- A pair with a stray character is still read as one digit. -/
example :
    hexDecode (bytes " a") = some [10] ∧
      hexDecode (bytes "-a") = none := by
  decide

end TgGate.Library
