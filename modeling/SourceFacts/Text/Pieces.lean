namespace SourceFacts.Text

/-!
# Pieces of a text
-/

/-!
## Blanks

The characters that Unicode counts as white space, and the texts without those
at their ends. Everything that is white space in the ASCII sense is a blank.
-/

/-- Whether a character is white space. -/
def isBlank (c : Char) : Bool :=
  let code := c.toNat
  (9 ≤ code && code ≤ 13) || code = 32 || code = 0x85 || code = 0xA0 || code = 0x1680 ||
    (0x2000 ≤ code && code ≤ 0x200A) || code = 0x2028 || code = 0x2029 || code = 0x202F ||
    code = 0x205F || code = 0x3000

/-- Characters without the blanks at the beginning. -/
def dropBlanks (chars : List Char) : List Char := chars.dropWhile isBlank

/-- Characters without the blanks at the end. -/
def dropBlanksEnd (chars : List Char) : List Char :=
  (chars.reverse.dropWhile isBlank).reverse

/-- A text without the blanks at both ends. -/
def trim (text : String) : String :=
  String.ofList (dropBlanksEnd (dropBlanks text.toList))

theorem isBlank_of_isWhitespace (c : Char) (blank : c.isWhitespace = true) :
    isBlank c = true := by
  simp only [Char.isWhitespace, Bool.or_eq_true, decide_eq_true_eq] at blank
  rcases blank with ((rfl | rfl) | rfl) | rfl <;> decide

/-! ## Pieces around a mark -/

/-- The text before the first occurrence of a character, all of it if there is none. -/
def before (mark : Char) (text : String) : String :=
  String.ofList (text.toList.takeWhile (· ≠ mark))

/-- The text after the last occurrence of a character, all of it if there is none. -/
def afterLast (mark : Char) (text : String) : String :=
  String.ofList (text.toList.reverse.takeWhile (· ≠ mark)).reverse

/-- The rest of a list after a given beginning. -/
def dropStart? [BEq α] : List α → List α → Option (List α)
  | [], items => some items
  | _ :: _, [] => none
  | first :: start, item :: items => if first == item then dropStart? start items else none

/-- The rest of a list before a given end. -/
def dropEnd? [BEq α] (ending items : List α) : Option (List α) :=
  (dropStart? ending.reverse items.reverse).map List.reverse

/-- Whether a text begins with another. -/
def beginsWith (text start : String) : Bool := start.toList.isPrefixOf text.toList

/-- Whether a text ends with another. -/
def endsWith (text ending : String) : Bool := ending.toList.isSuffixOf text.toList

/-- Whether a text occurs in another. -/
def occursIn (needle : List Char) : List Char → Bool
  | [] => needle.isEmpty
  | c :: rest => needle.isPrefixOf (c :: rest) || occursIn needle rest

/-- Whether a text contains another. -/
def contains (text needle : String) : Bool := occursIn needle.toList text.toList

/-- What stands before and after the first occurrence of a mark. -/
def splitAtFirst? (mark : List Char) : List Char → Option (List Char × List Char)
  | [] => if mark.isEmpty then some ([], []) else none
  | c :: rest =>
      match dropStart? mark (c :: rest) with
      | some after => some ([], after)
      | none => (splitAtFirst? mark rest).map fun (before, after) => (c :: before, after)

/-- Texts with a separator between neighbours. -/
def join (separator : String) (texts : List String) : String :=
  String.intercalate separator texts

/-!
## Bounded cuts

The longest prefix of a text that takes at most a given number of bytes and
holds whole characters only. Where it ends is looked for backwards from the bound.
-/

/-- Whether a text has whole characters in its first bytes. -/
def isBoundary (text : String) (size : Nat) : Bool := String.Pos.Raw.isValid text ⟨size⟩

/-- The last boundary of a text up to a bound. -/
def boundaryUpTo (text : String) : Nat → Nat
  | 0 => 0
  | size + 1 => if isBoundary text (size + 1) then size + 1 else boundaryUpTo text size

/-- A text begins at a boundary, so that one is found. -/
theorem isBoundary_boundaryUpTo (text : String) (bound : Nat) :
    isBoundary text (boundaryUpTo text bound) = true := by
  induction bound with
  | zero => exact String.Pos.Raw.isValid_eq_true_iff.mpr String.Pos.Raw.isValid_zero
  | succ size hypothesis =>
      rw [boundaryUpTo]
      split
      · assumption
      · exact hypothesis

/-- The first bytes of a text, up to a boundary. -/
def takeTo (text : String) (size : Nat) (isEnd : isBoundary text size = true) : String :=
  (text.sliceTo (text.pos ⟨size⟩ (String.Pos.Raw.isValid_eq_true_iff.mp isEnd))).copy

/-- The longest prefix of at most `bound` bytes. -/
def cut (bound : Nat) (text : String) : String :=
  if text.utf8ByteSize ≤ bound then text
  else takeTo text (boundaryUpTo text bound) (isBoundary_boundaryUpTo text bound)

/-!
## Lines

A line feed ends a line. A carriage return right before it belongs to the line
ending, any other is part of the line.
-/

/-- The pieces between line feeds; there is always at least one. -/
def segments : List Char → List (List Char)
  | [] => [[]]
  | c :: rest =>
      if c = '\n' then [] :: segments rest
      else match segments rest with
        | [] => [[c]]
        | first :: more => (c :: first) :: more

/-- The characters of a line without the carriage return at its end. -/
def dropReturn (line : List Char) : List Char :=
  if line.getLast? = some '\r' then line.dropLast else line

/-- The lines among segments: all but the last one were ended by a line feed,
and an empty last one is no line. -/
def linesOfSegments : List (List Char) → List (List Char)
  | [] => []
  | [last] => if last.isEmpty then [] else [last]
  | line :: next :: more => dropReturn line :: linesOfSegments (next :: more)

/-- The lines of a text. -/
def lines (text : String) : List String :=
  (linesOfSegments (segments text.toList)).map String.ofList

/-- The number of lines of a text. -/
def lineCount (text : String) : Nat := (lines text).length

end SourceFacts.Text
