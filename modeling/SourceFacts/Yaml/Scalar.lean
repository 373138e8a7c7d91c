import SourceFacts.Yaml.Cursor

namespace SourceFacts.Yaml

/-!
# Reading scalars

A scalar is plain, quoted or a block. In plain and quoted scalars a line break
between words stands for a space, and further ones for themselves.
-/

/-- What a scalar is read to, and the place after it. -/
abbrev ScalarRead := Option (List Char × Cursor)

/-! ## Gaps between words -/

/-- The blanks and line breaks between two words. -/
structure Gap where
  blanks : List Char := []
  crossesLine : Bool := false
  /-- The first line break. -/
  lineBreak : List Char := []
  /-- The line breaks after the first one. -/
  moreBreaks : List Char := []
deriving Repr, DecidableEq, Inhabited

/-- What a gap stands for. -/
def Gap.text (gap : Gap) : List Char :=
  if !gap.crossesLine then gap.blanks
  else if gap.lineBreak.head? = some '\n' then
    if gap.moreBreaks.isEmpty then [' '] else gap.moreBreaks
  else gap.lineBreak ++ gap.moreBreaks

/-- Reads a gap. On a new line no tab may stand before a given column. -/
def readGap (column : Nat) : Nat → Gap → Cursor → Option (Gap × Cursor)
  | 0, _, _ => none
  | fuel + 1, gap, cursor =>
      match cursor.peek? with
      | none => some (gap, cursor)
      | some c =>
          if isBlank c then
            if gap.crossesLine then
              if c = '\t' && cursor.column < column then none
              else readGap column fuel gap cursor.advance
            else readGap column fuel { gap with blanks := gap.blanks ++ [c] } cursor.advance
          else if isBreak c then
            let (text, cursor) := cursor.readBreak
            if gap.crossesLine then
              readGap column fuel { gap with moreBreaks := gap.moreBreaks ++ text } cursor
            else readGap column fuel { crossesLine := true, lineBreak := text } cursor
          else some (gap, cursor)

/-! ## Plain scalars -/

/-- Whether a character has a meaning of its own between brackets. -/
def isFlowMark (c : Char) : Bool := c = ',' || c = '[' || c = ']' || c = '\x7b' || c = '\x7d'

/-- Reads a word of a plain scalar. -/
def readPlainWord (inFlow : Bool) : Nat → List Char → Cursor → ScalarRead
  | 0, _, _ => none
  | fuel + 1, word, cursor =>
      match cursor.peek? with
      | none => some (word, cursor)
      | some c =>
          let next := (cursor.rest.drop 1).head?
          if isGap c then some (word, cursor)
          else if inFlow && c = ':' && next.any (fun d => d = '?' || isFlowMark d) then none
          else if (c = ':' && cursor.gapAfter 1) || (inFlow && isFlowMark c) then
            some (word, cursor)
          else readPlainWord inFlow fuel (word ++ [c]) cursor.advance

/-- Reads a plain scalar whose further lines begin in a given column or after it.
The result also tells whether it ended with a line. -/
def readPlain (inFlow : Bool) (column : Nat) :
    Nat → List Char → Gap → Cursor → Option (List Char × Bool × Cursor)
  | 0, _, _, _ => none
  | fuel + 1, text, gap, cursor =>
      if cursor.atDocumentMark || cursor.isAt '#' then some (text, gap.crossesLine, cursor)
      else
        match readPlainWord inFlow (cursor.rest.length + 1) [] cursor with
        | none => none
        | some (word, after) =>
            let text := if word.isEmpty then text else text ++ gap.text ++ word
            let gap := if word.isEmpty then gap else {}
            if !after.isAtAny isGap then some (text, gap.crossesLine, after)
            else
              match readGap column (after.rest.length + 1) gap after with
              | none => none
              | some (gap, after) =>
                  if !inFlow && after.column < column then some (text, gap.crossesLine, after)
                  else readPlain inFlow column fuel text gap after

/-! ## Quoted scalars -/

/-- The value of hexadecimal digits. -/
def hexValue? (digits : List Char) : Option Nat :=
  digits.foldlM (fun value c =>
    if '0' ≤ c && c ≤ '9' then some (value * 16 + (c.toNat - '0'.toNat))
    else if 'a' ≤ c && c ≤ 'f' then some (value * 16 + (c.toNat - 'a'.toNat + 10))
    else if 'A' ≤ c && c ≤ 'F' then some (value * 16 + (c.toNat - 'A'.toNat + 10))
    else none) 0

/-- The character that a letter after a backslash stands for. -/
def escaped? : Char → Option Char
  | '0' => some '\x00'
  | 'a' => some '\x07'
  | 'b' => some '\x08'
  | 't' | '\t' => some '\t'
  | 'n' => some '\n'
  | 'v' => some '\x0b'
  | 'f' => some '\x0c'
  | 'r' => some '\r'
  | 'e' => some '\x1b'
  | ' ' => some ' '
  | '"' => some '"'
  | '/' => some '/'
  | '\\' => some '\\'
  | 'N' => some '\x85'
  | '_' => some '\xa0'
  | 'L' => some '\u2028'
  | 'P' => some '\u2029'
  | _ => none

/-- The number of hexadecimal digits that follow a letter after a backslash. -/
def escapeDigits? : Char → Option Nat
  | 'x' => some 2
  | 'u' => some 4
  | 'U' => some 8
  | _ => none

/-- The character that what comes after a backslash stands for, and its length. -/
def readEscape (chars : List Char) : Option (Char × Nat) := do
  let letter ← chars.head?
  match escaped? letter with
  | some c => some (c, 1)
  | none =>
      let count ← escapeDigits? letter
      let digits := (chars.drop 1).take count
      if digits.length ≠ count then none
      else
        let value ← hexValue? digits
        if value.isValidChar then some (Char.ofNat value, count + 1) else none

/-- Reads a word between quotes. The result also tells whether a backslash at the
end of the line ended it. -/
def readQuotedWord (quote : Char) : Nat → List Char → Cursor → Option (List Char × Bool × Cursor)
  | 0, _, _ => none
  | fuel + 1, word, cursor =>
      match cursor.peek? with
      | none => some (word, false, cursor)
      | some c =>
          if isGap c then some (word, false, cursor)
          else if c = quote then
            if quote = '\'' && (cursor.rest.drop 1).head? = some '\'' then
              readQuotedWord quote fuel (word ++ [c]) (cursor.advanceBy 2)
            else some (word, false, cursor)
          else if quote = '"' && c = '\\' then
            if cursor.advance.isAtAny isBreak then some (word, true, cursor.advance.skipBreak)
            else
              match readEscape (cursor.rest.drop 1) with
              | none => none
              | some (c, length) =>
                  readQuotedWord quote fuel (word ++ [c]) (cursor.advanceBy (length + 1))
          else readQuotedWord quote fuel (word ++ [c]) cursor.advance

/-- Reads what stands between quotes, and the closing one. -/
def readQuoted (quote : Char) : Nat → List Char → Cursor → ScalarRead
  | 0, _, _ => none
  | fuel + 1, text, cursor =>
      if cursor.atDocumentMark || cursor.atEnd then none
      else
        match readQuotedWord quote (cursor.rest.length + 1) [] cursor with
        | none => none
        | some (word, lineEscaped, after) =>
            if after.isAt quote then some (text ++ word, after.advance)
            else
              match readGap 0 (after.rest.length + 1) { crossesLine := lineEscaped } after with
              | none => none
              | some (gap, after) => readQuoted quote fuel (text ++ word ++ gap.text) after

/-! ## Block scalars -/

/-- What becomes of the line breaks at the end of a block. -/
inductive Chomping where
  | strip
  | clip
  | keep
deriving Repr, DecidableEq, Inhabited

/-- The marks after the sign that begins a block: how line breaks at the end are
kept, and by how much the block is indented. -/
def readBlockHeader (cursor : Cursor) : Option (Chomping × Option Nat × Cursor) :=
  let chomping? (c : Char) : Option Chomping :=
    if c = '+' then some .keep else if c = '-' then some .strip else none
  let indentation? (c : Char) : Option Nat :=
    if c.isDigit then some (c.toNat - '0'.toNat) else none
  let readIndentation (cursor : Cursor) : Option (Option Nat × Cursor) :=
    match cursor.peek?.bind indentation? with
    | none => some (none, cursor)
    | some 0 => none
    | some digit => some (some digit, cursor.advance)
  match cursor.peek?.bind chomping? with
  | some chomping => do
      let (indentation, cursor) ← readIndentation cursor.advance
      return (chomping, indentation, cursor)
  | none => do
      let (indentation, cursor) ← readIndentation cursor
      match indentation, cursor.peek?.bind chomping? with
      | some _, some chomping => return (chomping, indentation, cursor.advance)
      | _, _ => return (.clip, indentation, cursor)

/-- Skips spaces and a comment up to the end of the line, and the line break. -/
def skipLineEnd (cursor : Cursor) : Option Cursor :=
  let cursor := cursor.skipWhile isBlank
  let cursor := if cursor.isAt '#' then cursor.skipWhile (!isBreak ·) else cursor
  if cursor.atLineEnd then some cursor.skipBreak else none

/-- Reads empty lines of a block and the indentation of the line after them, up to
a column if one is given. The result has the line breaks and the furthest column. -/
def readBlockBreaks (column? : Option Nat) :
    Nat → List Char → Nat → Cursor → Option (List Char × Nat × Cursor)
  | 0, _, _, _ => none
  | fuel + 1, breaks, furthest, cursor =>
      let spaces := (cursor.rest.takeWhile (· = ' ')).length
      let count := match column? with
        | none => spaces
        | some column => min spaces (column - cursor.column)
      let cursor := cursor.advanceBy count
      let furthest := max furthest cursor.column
      let isIndenting := match column? with
        | none => true
        | some column => cursor.column < column
      if isIndenting && cursor.isAt '\t' then none
      else if cursor.isAtAny isBreak then
        let (text, cursor) := cursor.readBreak
        readBlockBreaks column? fuel (breaks ++ text) furthest cursor
      else some (breaks, furthest, cursor)

/-- How far a block has been read. -/
structure BlockText where
  text : List Char := []
  /-- The line break after the last line. -/
  lineBreak : List Char := []
  /-- The line breaks of empty lines after it. -/
  moreBreaks : List Char := []
  /-- Whether the last line begins with a blank. -/
  beganBlank : Bool := false
deriving Repr, DecidableEq, Inhabited

/-- The text of a block before another line. -/
def BlockText.beforeLine (block : BlockText) (literal beginsBlank : Bool) : List Char :=
  let folds := !literal && block.lineBreak.head? = some '\n' && !block.beganBlank && !beginsBlank
  let between :=
    if !folds then block.lineBreak else if block.moreBreaks.isEmpty then [' '] else []
  block.text ++ between ++ block.moreBreaks

/-- The text of a block after its last line. -/
def BlockText.finish (block : BlockText) : Chomping → List Char
  | .strip => block.text
  | .clip => block.text ++ block.lineBreak
  | .keep => block.text ++ block.lineBreak ++ block.moreBreaks

/-- Reads the lines of a block that begin in a column. -/
def readBlockLines (literal : Bool) (column : Nat) :
    Nat → BlockText → Cursor → Option (BlockText × Cursor)
  | 0, _, _ => none
  | fuel + 1, block, cursor =>
      if cursor.column ≠ column || cursor.atEnd then some (block, cursor)
      else
        let beginsBlank := cursor.isAtAny isBlank
        let (line, after) := cursor.takeWhile (!isBreak ·)
        let (lineBreak, after) := after.readBreak
        match readBlockBreaks (some column) (after.rest.length + 1) [] 0 after with
        | none => none
        | some (moreBreaks, _, after) =>
            let text := block.beforeLine literal beginsBlank ++ line
            readBlockLines literal column fuel
              { text, lineBreak, moreBreaks, beganBlank := beginsBlank } after

/-- Reads a block after the sign that begins it, below something in a column. -/
def readBlock (literal : Bool) (parentColumn : Int) (cursor : Cursor) : ScalarRead := do
  let (chomping, indentation?, cursor) ← readBlockHeader cursor
  let cursor ← skipLineEnd cursor
  let given? := indentation?.map fun count => (max parentColumn 0).toNat + count
  let (moreBreaks, furthest, cursor) ←
    readBlockBreaks given? (cursor.rest.length + 1) [] 0 cursor
  let column := given?.getD (max furthest (max (parentColumn + 1).toNat 1))
  let (block, cursor) ←
    readBlockLines literal column (cursor.rest.length + 1) { moreBreaks } cursor
  return (block.finish chomping, cursor)

end SourceFacts.Yaml
