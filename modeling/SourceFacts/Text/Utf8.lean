namespace SourceFacts.Text

/-!
# Bytes and UTF-8
-/

/-- Contents of files and messages. -/
abbrev Bytes := List UInt8

/-- The UTF-8 form of a text. -/
def encode (text : String) : Bytes := text.toByteArray.data.toList

/-- The text of which bytes are the UTF-8 form. -/
def decode? (bytes : Bytes) : Option String := String.fromUTF8? ⟨bytes.toArray⟩

/-- The end of the longest run of whole characters that begins at a position. -/
def validEnd (bytes : ByteArray) (position : Nat) : Nat :=
  if position < bytes.size then
    match bytes.utf8DecodeChar? position with
    | some c => validEnd bytes (position + c.utf8Size)
    | none => position
  else position
termination_by bytes.size - position
decreasing_by
  have := c.utf8Size_pos
  omega

/-- The length of the longest prefix that is the UTF-8 form of a text. -/
def validLength (bytes : Bytes) : Nat := validEnd ⟨bytes.toArray⟩ 0

/-- The mark that may stand before a text in UTF-8. -/
def byteOrderMark : Bytes := [0xEF, 0xBB, 0xBF]

/-- Bytes without the mark before them. -/
def dropMark (bytes : Bytes) : Bytes :=
  if byteOrderMark.isPrefixOf bytes then bytes.drop 3 else bytes

/-- The text with one character for every byte. -/
def latin1 (bytes : Bytes) : String :=
  String.ofList (bytes.map fun byte => Char.ofNat byte.toNat)

/-! ## Hexadecimal -/

/-- The lower-case digit of a value below sixteen. -/
def hexDigit (value : Nat) : Char :=
  if value < 10 then Char.ofNat ('0'.toNat + value) else Char.ofNat ('a'.toNat + (value - 10))

/-- The value of a digit of either case. -/
def hexValue? (c : Char) : Option Nat :=
  if '0' ≤ c ∧ c ≤ '9' then some (c.toNat - '0'.toNat)
  else if 'a' ≤ c ∧ c ≤ 'f' then some (c.toNat - 'a'.toNat + 10)
  else if 'A' ≤ c ∧ c ≤ 'F' then some (c.toNat - 'A'.toNat + 10)
  else none

/-- Two digits for every byte. -/
def toHex (bytes : Bytes) : String :=
  String.ofList (bytes.flatMap fun byte =>
    [hexDigit (byte.toNat / 16), hexDigit (byte.toNat % 16)])

/-- The bytes that pairs of digits stand for. -/
def ofHexChars? : List Char → Option Bytes
  | [] => some []
  | [_] => none
  | high :: low :: rest =>
      match hexValue? high, hexValue? low with
      | some high, some low => (ofHexChars? rest).map (UInt8.ofNat (16 * high + low) :: ·)
      | _, _ => none

/-- The bytes that a text of pairs of digits stands for. -/
def ofHex? (text : String) : Option Bytes := ofHexChars? text.toList

end SourceFacts.Text
