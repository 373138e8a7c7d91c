import SourceFacts.Json.Value
import SourceFacts.Number.Double

namespace SourceFacts.Json

/-!
# Writing JSON

A value is written on one line without blanks, or with a line for every item
and field, each level indented by two blanks.
-/

/-- A hexadecimal digit. -/
def hexDigit (value : Nat) : Char :=
  if value < 10 then Char.ofNat ('0'.toNat + value) else Char.ofNat ('a'.toNat + (value - 10))

/-- A character as it is written in a string. -/
def escape (c : Char) : List Char :=
  match c with
  | '"' => ['\\', '"']
  | '\\' => ['\\', '\\']
  | '\x08' => ['\\', 'b']
  | '\x0c' => ['\\', 'f']
  | '\n' => ['\\', 'n']
  | '\r' => ['\\', 'r']
  | '\t' => ['\\', 't']
  | c =>
      if c.toNat < 0x20 then
        ['\\', 'u', '0', '0', hexDigit (c.toNat / 16), hexDigit (c.toNat % 16)]
      else [c]

/-- A text in quotes. -/
def quoted (text : String) : List Char := '"' :: text.toList.flatMap escape ++ ['"']

mutual

/-- A value on one line. -/
def compactChars : Json → List Char
  | .null => ['n', 'u', 'l', 'l']
  | .bool true => ['t', 'r', 'u', 'e']
  | .bool false => ['f', 'a', 'l', 's', 'e']
  | .integer value => (toString value.value).toList
  | .double value => value.toText.toList
  | .string text => quoted text
  | .array items => '[' :: compactItems items true ++ [']']
  | .object fields => '\x7b' :: compactFields fields true ++ ['\x7d']

/-- Items on one line, the first without a comma before it. -/
def compactItems : List Json → Bool → List Char
  | [], _ => []
  | item :: rest, isFirst =>
      (if isFirst then [] else [',']) ++ compactChars item ++ compactItems rest false

/-- Fields on one line, the first without a comma before it. -/
def compactFields : List (String × Json) → Bool → List Char
  | [], _ => []
  | (name, value) :: rest, isFirst =>
      (if isFirst then [] else [',']) ++ quoted name ++ ':' :: compactChars value ++
        compactFields rest false

end

/-- A new line at a level. -/
def newLine (level : Nat) : List Char := '\n' :: List.replicate (2 * level) ' '

mutual

/-- A value over many lines, itself at a level. -/
def prettyChars (level : Nat) : Json → List Char
  | .array [] => ['[', ']']
  | .array items => '[' :: prettyItems (level + 1) items true ++ newLine level ++ [']']
  | .object [] => ['\x7b', '\x7d']
  | .object fields =>
      '\x7b' :: prettyFields (level + 1) fields true ++ newLine level ++ ['\x7d']
  | value => compactChars value

/-- Items on lines of their own. -/
def prettyItems (level : Nat) : List Json → Bool → List Char
  | [], _ => []
  | item :: rest, isFirst =>
      (if isFirst then [] else [',']) ++ newLine level ++ prettyChars level item ++
        prettyItems level rest false

/-- Fields on lines of their own. -/
def prettyFields (level : Nat) : List (String × Json) → Bool → List Char
  | [], _ => []
  | (name, value) :: rest, isFirst =>
      (if isFirst then [] else [',']) ++ newLine level ++ quoted name ++ ':' :: ' ' ::
        prettyChars level value ++ prettyFields level rest false

end

/-- A value as a text on one line. -/
def compact (value : Json) : String := String.ofList (compactChars value)

/-- A value as a text over many lines. -/
def pretty (value : Json) : String := String.ofList (prettyChars 0 value)

end SourceFacts.Json
