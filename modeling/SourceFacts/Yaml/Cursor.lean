namespace SourceFacts.Yaml

/-!
# Places in a YAML text

Lines end with a carriage return, a line feed, both of them, or one of the three
further line breaks of Unicode. In a scalar the first four are read as a line
feed.
-/

/-- Whether a character is a space or a tab. -/
def isBlank (c : Char) : Bool := c = ' ' || c = '\t'

/-- Whether a character ends a line. -/
def isBreak (c : Char) : Bool :=
  c = '\r' || c = '\n' || c = '\x85' || c = '\u2028' || c = '\u2029'

/-- Whether a character separates words. -/
def isGap (c : Char) : Bool := isBlank c || isBreak c

/-- Whether a character may stand in a YAML text. -/
def isAllowed (c : Char) : Bool :=
  c = '\t' || c = '\n' || c = '\r' || c = '\x85' || (' ' ≤ c && c ≤ '~') ||
    ('\xa0' ≤ c && c ≤ '\uFFFD') || '\uFFFF' < c

/-- A place in a text. -/
structure Cursor where
  rest : List Char
  index : Nat := 0
  line : Nat := 0
  column : Nat := 0
deriving Repr, DecidableEq, Inhabited

namespace Cursor

/-- Whether the end of the text is reached. -/
def atEnd (cursor : Cursor) : Bool := cursor.rest.isEmpty

/-- The next character. -/
def peek? (cursor : Cursor) : Option Char := cursor.rest.head?

/-- Whether the next character is a given one. -/
def isAt (cursor : Cursor) (c : Char) : Bool := cursor.rest.head? == some c

/-- Whether the next character, if there is one, has a property. -/
def isAtAny (cursor : Cursor) (holds : Char → Bool) : Bool := cursor.rest.head?.any holds

/-- Whether what follows a number of characters is a gap or the end. -/
def gapAfter (cursor : Cursor) (count : Nat) : Bool :=
  match (cursor.rest.drop count).head? with
  | none => true
  | some c => isGap c

/-- Whether the next character is a line break, or there is none. -/
def atLineEnd (cursor : Cursor) : Bool := cursor.atEnd || cursor.isAtAny isBreak

/-- The place after the next character, which ends no line. -/
def advance (cursor : Cursor) : Cursor :=
  match cursor.rest with
  | [] => cursor
  | _ :: rest => { cursor with rest, index := cursor.index + 1, column := cursor.column + 1 }

/-- The place after some characters, which end no line. -/
def advanceBy (cursor : Cursor) (count : Nat) : Cursor :=
  let count := min count cursor.rest.length
  { cursor with
    rest := cursor.rest.drop count
    index := cursor.index + count
    column := cursor.column + count }

/-- The place after the characters that have a property, and these. -/
def takeWhile (cursor : Cursor) (holds : Char → Bool) : List Char × Cursor :=
  let chars := cursor.rest.takeWhile holds
  (chars, cursor.advanceBy chars.length)

/-- The place after the characters that have a property. -/
def skipWhile (cursor : Cursor) (holds : Char → Bool) : Cursor := (cursor.takeWhile holds).2

/-- The line break that comes next as it is read in a scalar, and the place after it. -/
def readBreak (cursor : Cursor) : List Char × Cursor :=
  let next (text : List Char) (length : Nat) (rest : List Char) : List Char × Cursor :=
    (text, { rest, index := cursor.index + length, line := cursor.line + 1, column := 0 })
  match cursor.rest with
  | '\r' :: '\n' :: rest => next ['\n'] 2 rest
  | c :: rest =>
      if c = '\u2028' || c = '\u2029' then next [c] 1 rest
      else if isBreak c then next ['\n'] 1 rest
      else ([], cursor)
  | [] => ([], cursor)

/-- The place after the line break that comes next. -/
def skipBreak (cursor : Cursor) : Cursor := cursor.readBreak.2

/-- Whether a line with a mark between documents begins here. -/
def atDocumentMark (cursor : Cursor) : Bool :=
  cursor.column = 0 && cursor.gapAfter 3 &&
    (cursor.rest.take 3 = ['-', '-', '-'] || cursor.rest.take 3 = ['.', '.', '.'])

end Cursor

end SourceFacts.Yaml
