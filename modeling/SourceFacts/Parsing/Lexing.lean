import SourceFacts.Grammar.Language
import SourceFacts.Parsing.Extent

namespace SourceFacts.Parsing

/-!
# Reading tokens

A reader walks over a text one character at a time and keeps the bounds of the
token it is reading: characters may be skipped before the token, and the end of
the token may be marked before the place where reading stops. Past the end of
the text the reader sees a NUL character and no longer moves.
-/

open Grammar

/-- A place in a text, with the bounds of the token being read. -/
structure Reader where
  text : Array Char
  position : Extent
  /-- Where the token begins. -/
  start : Extent
  /-- The marked end of the token. -/
  stop? : Option Extent := none

namespace Reader

/-- The byte-order mark. -/
def byteOrderMark : Char := '\uFEFF'

/-- Whether the reader is at the end of the text. -/
def atEnd (reader : Reader) : Bool := reader.text.size ≤ reader.position.chars

/-- The next character, NUL at the end of the text. -/
def peek (reader : Reader) : Char := reader.text.getD reader.position.chars '\x00'

/-- Pass over the next character as part of the token. -/
def advance (reader : Reader) : Reader :=
  if reader.atEnd then reader
  else { reader with position := reader.position.addChar reader.peek }

/-- Pass over the next character and let the token begin after it. -/
def skip (reader : Reader) : Reader :=
  if reader.atEnd then reader
  else
    let position := reader.position.addChar reader.peek
    { reader with position, start := position }

/-- Let the token end here. -/
def markEnd (reader : Reader) : Reader := { reader with stop? := some reader.position }

/-- Begin to read a token. A byte-order mark at the start of the text is skipped. -/
def begin (text : Array Char) (position : Extent) : Reader :=
  let reader : Reader := { text, position, start := position }
  if position.bytes = 0 && reader.peek = byteOrderMark then reader.skip else reader

/-- The bounds of the token; one that ends before it begins is empty. -/
def bounds (reader : Reader) : Extent × Extent :=
  let stop := reader.stop?.getD reader.position
  if stop.bytes < reader.start.bytes then (stop, stop) else (reader.start, stop)

/-- Number of characters left. -/
def remaining (reader : Reader) : Nat := reader.text.size - reader.position.chars

end Reader

/--
Match the tokens that a set of lexical states stands for. The result holds the
longest match that the precedences allow, and the reader where matching stopped.
-/
def matchFrom (lexicon : Lexicon) :
    Nat → List Nat → Bool → Option (Option Nat) → Reader → Option (Option Nat) × Reader
  | 0, _, _, found, reader => (found, reader)
  | fuel + 1, states, acceptsEnd, found, reader =>
      let completed := lexicon.winner? states
      let (found, reader) := match completed with
        | some (token, _) => (some (some token), reader.markEnd)
        | none => (found, reader)
      if reader.atEnd then
        if acceptsEnd then (some none, reader.markEnd) else (found, reader)
      else
        match lexicon.transition? states (Letter.ofChar reader.peek) with
        | none => (found, reader)
        | some transition =>
            let mayAdvance := match completed with
              | none => true
              | some known => lexicon.prefersTransition transition known (lexicon.readsBlank states)
            if mayAdvance then
              let reader := if transition.isBlank then reader.skip else reader.advance
              matchFrom lexicon fuel transition.states (acceptsEnd && transition.isBlank) found reader
            else
              (found, reader)

/--
Read a token of the lexicon: its symbol, or nothing if no token matches, and the
reader where matching stopped.
-/
def readToken (language : Language) (start : LexStart) (reader : Reader) :
    Option SymbolId × Reader :=
  let (found, reader) :=
    matchFrom language.lexicon (reader.remaining + 2) start.states start.acceptsEnd none reader
  match found with
  | none => (none, reader)
  | some none => (some Language.endSymbol, reader)
  | some (some token) => (some (language.tokenSymbols.getD token 0), reader)

end SourceFacts.Parsing
