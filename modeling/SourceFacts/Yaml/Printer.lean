import SourceFacts.Yaml.Value

namespace SourceFacts.Yaml

/-!
# Writing YAML

A text is written as a plain scalar if it can be and does not look like another
value. Otherwise it is put into quotes, or into a block if it has several lines.
Mappings are written with an entry on each line, two columns further for each level.
-/

/-! ## What stands in the way of a style -/

/-- Whether a character may be written as it is. -/
def isPrintable (c : Char) : Bool :=
  c = '\n' || (' ' ≤ c && c ≤ '~') || ('\xa0' ≤ c && c ≤ '\uFFFD' && c ≠ '\uFEFF') ||
    '\uFFFF' < c

/-- Whether a plain scalar cannot begin with a character. -/
def isIndicator (c : Char) : Bool := "#,[]\x7b\x7d&*!|>'\"%@\x60".toList.contains c

/-- Whether a text ends here or goes on with a gap. -/
def beginsWithGap (chars : List Char) : Bool := chars.head?.all isGap

/-- Whether there is a mark with a meaning in some characters, after a gap or not. -/
def hasMark : Bool → List Char → Bool
  | _, [] => false
  | afterGap, c :: rest =>
      (c = ':' && beginsWithGap rest) || (c = '#' && afterGap) || hasMark (isGap c) rest

/-- Whether a plain scalar cannot begin as some characters do. -/
def beginsWithMark : List Char → Bool
  | [] => false
  | c :: rest => isIndicator c || ((c = '?' || c = ':' || c = '-') && beginsWithGap rest)

/-- Whether characters begin like a mark between documents. -/
def beginsLikeDocument (chars : List Char) : Bool :=
  chars.take 3 = ['-', '-', '-'] || chars.take 3 = ['.', '.', '.']

/-- Whether two neighbours of the given kinds come one after the other. -/
def haveNeighbours (first second : Char → Bool) : List Char → Bool
  | c :: d :: rest => (first c && second d) || haveNeighbours first second (d :: rest)
  | _ => false

/-- Whether some characters can only be written with escapes. -/
def needsEscapes (chars : List Char) : Bool :=
  chars.any (!isPrintable ·) || haveNeighbours (· = ' ') isBreak chars

/-- Whether some characters can be written without quotes. -/
def allowsPlain (chars : List Char) : Bool :=
  !beginsLikeDocument chars && !beginsWithMark chars && !hasMark true chars &&
    !needsEscapes chars && !chars.any isBreak && chars.head? ≠ some ' ' &&
    chars.getLast? ≠ some ' '

/-- Whether some characters can be written in single quotes. -/
def allowsQuotes (chars : List Char) : Bool :=
  !needsEscapes chars && !haveNeighbours isBreak (· = ' ') chars

/-- Whether some characters can be written as a block. -/
def allowsBlock (chars : List Char) : Bool :=
  !needsEscapes chars && chars.getLast? ≠ some ' '

/-! ## Styles -/

/-- How a text is written. -/
inductive Style where
  | plain
  | singleQuoted
  | doubleQuoted
  | block
deriving Repr, DecidableEq, Inhabited

/-- Whether a text, written plainly, would be taken for another value. -/
def looksLikeOther (text : String) : Bool :=
  plainKind text ≠ .string || hasLeadingZero text.toList

/-- How a text is written. -/
def Style.ofText (text : String) : Style :=
  let chars := text.toList
  if chars.contains '\n' then if allowsBlock chars then .block else .doubleQuoted
  else if !looksLikeOther text && allowsPlain chars then .plain
  else if allowsQuotes chars then .singleQuoted
  else .doubleQuoted

/-! ## Scalars -/

/-- Spaces up to a column. -/
def indentation (column : Nat) : List Char := List.replicate column ' '

/-- Characters in single quotes; what follows a line break begins in a column. -/
def singleQuotedChars (column : Nat) : Bool → List Char → List Char
  | afterBreak, [] => if afterBreak then indentation column else []
  | afterBreak, c :: rest =>
      if isBreak c then c :: singleQuotedChars column true rest
      else
        (if afterBreak then indentation column else []) ++
          (if c = '\'' then [c, c] else [c]) ++ singleQuotedChars column false rest

/-- A hexadecimal digit. -/
def upperHexDigit (value : Nat) : Char :=
  if value < 10 then Char.ofNat ('0'.toNat + value) else Char.ofNat ('A'.toNat + (value - 10))

/-- A number of hexadecimal digits. -/
def upperHex (count value : Nat) : List Char :=
  (List.range count).reverse.map fun index => upperHexDigit (value / Nat.pow 16 index % 16)

/-- What stands for a character after a backslash. -/
def escapeOf (c : Char) : List Char :=
  match c with
  | '\x00' => ['0']
  | '\x07' => ['a']
  | '\x08' => ['b']
  | '\t' => ['t']
  | '\n' => ['n']
  | '\x0b' => ['v']
  | '\x0c' => ['f']
  | '\r' => ['r']
  | '\x1b' => ['e']
  | '"' => ['"']
  | '\\' => ['\\']
  | '\x85' => ['N']
  | '\u2028' => ['L']
  | '\u2029' => ['P']
  | c =>
      if c.toNat ≤ 0xFF then 'x' :: upperHex 2 c.toNat
      else if c.toNat ≤ 0xFFFF then 'u' :: upperHex 4 c.toNat
      else 'U' :: upperHex 8 c.toNat

/-- A character in double quotes. -/
def doubleQuotedChar (c : Char) : List Char :=
  if !isPrintable c || isBreak c || c = '"' || c = '\\' then '\\' :: escapeOf c else [c]

/-- The lines of a block, each beginning in a column unless it is empty. -/
def blockChars (column : Nat) : Bool → List Char → List Char
  | _, [] => []
  | afterBreak, c :: rest =>
      if isBreak c then c :: blockChars column true rest
      else (if afterBreak then indentation column else []) ++ c :: blockChars column false rest

/-- The marks of a block: its indentation, if the text does not show it, and how its
line breaks at the end are kept. -/
def blockHeader (chars : List Char) : List Char :=
  let shift := if chars.head?.any fun c => c = ' ' || isBreak c then ['2'] else []
  let keeping := match chars.reverse with
    | [] => ['-']
    | [last] => if isBreak last then ['+'] else ['-']
    | last :: other :: _ =>
        if !isBreak last then ['-'] else if isBreak other then ['+'] else []
  '|' :: shift ++ keeping

/-- A block ends with a line break, whatever the text does. -/
def blockEnd (chars : List Char) : List Char :=
  if chars.getLast?.any isBreak then [] else ['\n']

/-- A text as a scalar below an entry, whose own lines begin in a column. A line break
follows it. -/
def scalarLine (column : Nat) (text : String) : List Char :=
  let chars := text.toList
  match Style.ofText text with
  | .plain => chars ++ ['\n']
  | .singleQuoted => '\'' :: singleQuotedChars column false chars ++ ['\'', '\n']
  | .doubleQuoted => '"' :: chars.flatMap doubleQuotedChar ++ ['"', '\n']
  | .block => blockHeader chars ++ '\n' :: blockChars column true chars ++ blockEnd chars

/-! ## Documents -/

/-- What an entry of a document holds. -/
inductive Content where
  | bool (value : Bool)
  | word (value : UInt64)
  | text (value : String)
  | group (entries : List (String × Content))
deriving Repr, Inhabited

namespace Content

mutual

/-- The value that a content stands for. -/
def value : Content → Value
  | .bool value => .bool value
  | .word value => .integer value.toNat
  | .text value => .string value
  | .group entries => .mapping (entryValues entries)

/-- The entries of a group as those of a mapping. -/
def entryValues : List (String × Content) → List (Value × Value)
  | [] => []
  | (name, content) :: rest => (.string name, content.value) :: entryValues rest

end

mutual

/-- A content after the name of its entry, which begins in a column. -/
def print (column : Nat) : Content → List Char
  | .bool value => ' ' :: (if value then "true" else "false").toList ++ ['\n']
  | .word value => ' ' :: (toString value.toNat).toList ++ ['\n']
  | .text value => ' ' :: scalarLine (column + 2) value
  | .group entries => '\n' :: printEntries (column + 2) entries

/-- Entries that begin in a column. -/
def printEntries (column : Nat) : List (String × Content) → List Char
  | [] => []
  | (name, content) :: rest =>
      indentation column ++ name.toList ++ ':' :: content.print column ++
        printEntries column rest

end

end Content

/-- Entries as a document. -/
def document (entries : List (String × Content)) : String :=
  String.ofList (Content.printEntries 0 entries)

end SourceFacts.Yaml
