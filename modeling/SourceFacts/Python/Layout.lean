import SourceFacts.Parsing.Engine

namespace SourceFacts.Python

/-!
# Layout tokens

Line ends, indentation and the parts of string literals cannot be described by
patterns. Their scanner remembers the indentations of the enclosing blocks and
the quotes of the enclosing string literals. Indentation is remembered modulo
256; a tab counts as eight columns.
-/

open Grammar Parsing

/-- How a string literal is quoted. -/
structure Delimiter where
  /-- The quotation mark, if one has been seen. -/
  quote? : Option Char := none
  isTriple : Bool := false
  isRaw : Bool := false
  isFormat : Bool := false
  isBytes : Bool := false
deriving Repr, DecidableEq

/-- What the scanner remembers between tokens. -/
structure LayoutMemory where
  /-- Whether the innermost string literal may hold interpolations. -/
  insideFormat : Bool := false
  /-- The open string literals, the innermost first. -/
  delimiters : List Delimiter := []
  /-- The indentations of the open blocks, the innermost first. -/
  indents : List Nat := []
deriving Repr, DecidableEq

/-- The layout tokens, in the order of the grammar. -/
inductive LayoutToken where
  | newline
  | indent
  | dedent
  | stringStart
  | stringContent
  | escapeInterpolation
  | stringEnd
  | comment
  | closeBracket
  | closeParenthesis
  | closeBrace
  | exceptKeyword
deriving Repr, DecidableEq

namespace LayoutToken

/-- The number of a layout token in the grammar. -/
def number : LayoutToken → Nat
  | .newline => 0
  | .indent => 1
  | .dedent => 2
  | .stringStart => 3
  | .stringContent => 4
  | .escapeInterpolation => 5
  | .stringEnd => 6
  | .comment => 7
  | .closeBracket => 8
  | .closeParenthesis => 9
  | .closeBrace => 10
  | .exceptKeyword => 11

end LayoutToken

namespace Layout

/-- A token that was found, with the memory after it. -/
abbrev Found := Option (LayoutToken × LayoutMemory × Reader)

/-- What came of reading the content of a string literal. -/
inductive Content where
  /-- Reading ended with a token or without one. -/
  | ended (found : Found)
  /-- The text ended before the literal did. -/
  | exhausted (reader : Reader)

/-- Pass over the line end of an escaped line. -/
def passLineEnd (reader : Reader) : Reader :=
  if reader.peek = '\r' then
    let reader := reader.advance
    if reader.peek = '\n' then reader.advance else reader
  else if reader.peek = '\n' then reader.advance
  else reader

/-- The end of a literal: a token of its own, unless content comes before it. -/
def closeQuote (memory : LayoutMemory) (delimiter : Delimiter) (quote : Char)
    (hasContent : Bool) (reader : Reader) : Found :=
  let closed : LayoutMemory :=
    { memory with delimiters := memory.delimiters.drop 1, insideFormat := false }
  if delimiter.isTriple then
    let reader := reader.markEnd.advance
    if reader.peek = quote then
      let reader := reader.advance
      if reader.peek = quote then
        if hasContent then some (.stringContent, memory, reader)
        else some (.stringEnd, closed, reader.advance.markEnd)
      else some (.stringContent, memory, reader.markEnd)
    else some (.stringContent, memory, reader.markEnd)
  else if hasContent then some (.stringContent, memory, reader.markEnd)
  else some (.stringEnd, closed, reader.advance.markEnd)

/-- Read the content of the innermost string literal up to something special. -/
def readContent (memory : LayoutMemory) (delimiter : Delimiter) :
    Nat → Bool → Reader → Content
  | 0, _, reader => .exhausted reader
  | fuel + 1, hasContent, reader =>
      let content (reader : Reader) : Content :=
        .ended (if hasContent then some (.stringContent, memory, reader) else none)
      let c := reader.peek
      if c = '\x00' then .exhausted reader
      else if (c = '\x7b' || c = '\x7d') && delimiter.isFormat then content reader.markEnd
      else if c = '\\' then
        if delimiter.isRaw then
          let reader := reader.advance
          let reader :=
            if some reader.peek = delimiter.quote? || reader.peek = '\\' then reader.advance
            else reader
          readContent memory delimiter fuel hasContent (passLineEnd reader)
        else if delimiter.isBytes then
          let reader := reader.markEnd.advance
          if reader.peek = 'N' || reader.peek = 'u' || reader.peek = 'U' then
            readContent memory delimiter fuel true reader.advance.advance
          else content reader
        else content reader.markEnd
      else if some c = delimiter.quote? then
        .ended (closeQuote memory delimiter c hasContent reader)
      else if c = '\n' && hasContent && !delimiter.isTriple then .ended none
      else readContent memory delimiter fuel true reader.advance

/-- The blanks at the start of a line, as far as they matter for the layout. -/
structure Blanks where
  reader : Reader
  foundLineEnd : Bool := false
  indentation : Nat := 0
  /-- The indentation of the first comment on a line of its own. -/
  firstComment? : Option Nat := none

/-- Skip the rest of a comment, up to the line end. -/
def skipComment : Nat → Reader → Reader
  | 0, reader => reader
  | fuel + 1, reader =>
      if reader.peek = '\x00' || reader.peek = '\n' then reader
      else skipComment fuel reader.skip

/--
Skip blanks and, where layout matters, comments. The result is nothing if what
comes next cannot follow a line end.
-/
def readBlanks (mindsComments : Bool) : Nat → Blanks → Option Blanks
  | 0, blanks => some blanks
  | fuel + 1, blanks =>
      let reader := blanks.reader
      let c := reader.peek
      if c = '\n' then
        readBlanks mindsComments fuel
          { blanks with reader := reader.skip, foundLineEnd := true, indentation := 0 }
      else if c = ' ' then
        readBlanks mindsComments fuel
          { blanks with reader := reader.skip, indentation := blanks.indentation + 1 }
      else if c = '\r' || c = '\x0c' then
        readBlanks mindsComments fuel { blanks with reader := reader.skip, indentation := 0 }
      else if c = '\t' then
        readBlanks mindsComments fuel
          { blanks with reader := reader.skip, indentation := blanks.indentation + 8 }
      else if c = '#' && mindsComments then
        if !blanks.foundLineEnd then none
        else
          readBlanks mindsComments fuel { blanks with
            reader := (skipComment reader.remaining reader).skip
            firstComment? := blanks.firstComment?.or (some blanks.indentation)
            indentation := 0 }
      else if c = '\\' then
        let reader := reader.skip
        let reader := if reader.peek = '\r' then reader.skip else reader
        if reader.peek = '\n' || reader.atEnd then
          readBlanks mindsComments fuel { blanks with reader := reader.skip }
        else none
      else if reader.atEnd then
        some { blanks with indentation := 0, foundLineEnd := true }
      else some blanks

/-- Read the letters before the quote of a string literal. -/
def readFlags : Nat → Bool → Delimiter → Reader → Bool × Delimiter × Reader
  | 0, hasFlags, delimiter, reader => (hasFlags, delimiter, reader)
  | fuel + 1, hasFlags, delimiter, reader =>
      let c := reader.peek
      if c = 'f' || c = 'F' then
        readFlags fuel true { delimiter with isFormat := true } reader.advance
      else if c = 'r' || c = 'R' then
        readFlags fuel true { delimiter with isRaw := true } reader.advance
      else if c = 'b' || c = 'B' then
        readFlags fuel true { delimiter with isBytes := true } reader.advance
      else if c = 'u' || c = 'U' then readFlags fuel true delimiter reader.advance
      else (hasFlags, delimiter, reader)

/-- Read the quote that begins a string literal, which may be tripled. -/
def readQuote (delimiter : Delimiter) (reader : Reader) : Delimiter × Reader :=
  let c := reader.peek
  if c = '\x60' then ({ delimiter with quote? := some c }, reader.advance.markEnd)
  else if c = '\'' || c = '"' then
    let delimiter := { delimiter with quote? := some c }
    let reader := reader.advance.markEnd
    if reader.peek = c then
      let reader := reader.advance
      if reader.peek = c then
        ({ delimiter with isTriple := true }, reader.advance.markEnd)
      else (delimiter, reader)
    else (delimiter, reader)
  else (delimiter, reader)

/-- Read the beginning of a string literal. -/
def readStringStart (memory : LayoutMemory) (reader : Reader) : Found :=
  let (_, delimiter, reader) := readFlags (reader.remaining + 1) false {} reader
  let (delimiter, reader) := readQuote delimiter reader
  if delimiter.quote?.isSome then
    some (.stringStart,
      { memory with
        delimiters := delimiter :: memory.delimiters
        insideFormat := delimiter.isFormat },
      reader)
  else none

/-- Read a line end, a change of indentation or the start of a string literal. -/
def readLine (valid : LayoutToken → Bool) (memory : LayoutMemory) (recovering : Bool)
    (reader : Reader) : Found :=
  let withinBrackets :=
    valid .closeBrace || valid .closeParenthesis || valid .closeBracket
  let mindsComments :=
    valid .indent || valid .dedent || valid .newline || valid .exceptKeyword
  match readBlanks mindsComments (reader.remaining + 2) { reader := reader.markEnd } with
  | none => none
  | some blanks =>
      let reader := blanks.reader
      let indentation := blanks.indentation
      let current := memory.indents.headD 0
      let beginsString := reader.peek = '"' || reader.peek = '\'' || reader.peek = '\x60'
      let mayDedent := valid .dedent ||
        (!valid .newline && !(valid .stringStart && beginsString) && !withinBrackets)
      let commentsBelong := match blanks.firstComment? with
        | none => true
        | some comment => comment < current
      if blanks.foundLineEnd && valid .indent && indentation > current then
        some (.indent, { memory with indents := indentation % 256 :: memory.indents }, reader)
      else if blanks.foundLineEnd && mayDedent && indentation < current &&
          !memory.insideFormat && commentsBelong then
        some (.dedent, { memory with indents := memory.indents.drop 1 }, reader)
      else if blanks.foundLineEnd && valid .newline && !recovering then
        some (.newline, memory, reader)
      else if blanks.firstComment?.isNone && valid .stringStart then
        readStringStart memory reader
      else none

/-- A doubled brace in a formatted string literal. -/
def readEscape (memory : LayoutMemory) (reader : Reader) : Found :=
  let brace := reader.peek
  let reader := reader.markEnd.advance
  if reader.peek = brace then
    some (.escapeInterpolation, memory, reader.advance.markEnd)
  else none

/-- Look for one of the valid layout tokens. -/
def scan (memory? : Option LayoutMemory) (validTokens : TokenSet) (reader : Reader) : Found :=
  let memory := memory?.getD {}
  let valid (token : LayoutToken) : Bool := validTokens.testBit token.number
  let recovering := valid .stringContent && valid .indent
  match memory.delimiters with
  | [] => readLine valid memory recovering reader
  | delimiter :: _ =>
      if valid .escapeInterpolation && (reader.peek = '\x7b' || reader.peek = '\x7d') &&
          !recovering && delimiter.isFormat then
        readEscape memory reader
      else if valid .stringContent && !recovering then
        match readContent memory delimiter (reader.remaining + 1) false reader with
        | .ended found => found
        | .exhausted reader => readLine valid memory recovering reader
      else readLine valid memory recovering reader

/-- The scanner of layout tokens. -/
def scanner : LayoutScanner LayoutMemory where
  scan memory? valid reader :=
    (scan memory? valid reader).map fun (token, memory, reader) =>
      (token.number, memory, reader)

end Layout

end SourceFacts.Python
