import SourceFacts.Text.Pieces

namespace SourceFacts.Python.Docstring

/-!
# Docstrings

The text of a docstring is what stands between its quotes, without the
indentation that its lines share and without blanks at the ends of lines.
-/

open Text

/-- The letters that may stand before the quotes of a string. -/
def markers : List Char := ['r', 'R', 'u', 'U', 'b', 'B', 'f', 'F']

/-- The quotes that enclose strings, longer ones first. -/
def quotes : List (List Char) := [['"', '"', '"'], ['\'', '\'', '\''], ['"'], ['\'']]

/-- What stands between quotes, if they enclose the text. -/
def unquote? (text quote : List Char) : Option (List Char) :=
  (dropStart? quote text).bind (dropEnd? quote)

/-- What stands between the quotes of a string; all of it if there are none. -/
def body (raw : List Char) : List Char :=
  let text := raw.dropWhile markers.contains
  (quotes.findSome? (unquote? text)).getD text

/-- How many bytes of blanks a line begins with. -/
def indentation (line : List Char) : Nat := byteSize (line.takeWhile isBlank)
where
  /-- The bytes that characters take. -/
  byteSize (chars : List Char) : Nat := chars.foldl (fun size c => size + c.utf8Size) 0

/-- The least indentation of the lines that are not blank, zero if there are none. -/
def sharedIndentation (lines : List (List Char)) : Nat :=
  ((lines.filter fun line => !line.all isBlank).map indentation).min?.getD 0

/-- A line without its indentation and without blanks at its end. -/
def dedent (indent : Nat) (line : List Char) : List Char :=
  if line.all isBlank then [] else dropBlanksEnd (line.drop indent)

/-- The text of a docstring. -/
def clean (raw : String) : String :=
  let lines := linesOfSegments (segments (body raw.toList))
  let rest := lines.drop 1
  let cleaned :=
    dropBlanksEnd (dropBlanks (lines.headD [])) :: rest.map (dedent (sharedIndentation rest))
  let cleaned := (cleaned.reverse.dropWhile (·.isEmpty)).reverse.dropWhile (·.isEmpty)
  join "\n" (cleaned.map String.ofList)

end SourceFacts.Python.Docstring
