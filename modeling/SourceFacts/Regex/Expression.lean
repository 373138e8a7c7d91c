import SourceFacts.Text.CaseFolding
import SourceFacts.Text.Pieces
import SourceFacts.Text.Properties

namespace SourceFacts.Regex

/-!
# Regular expressions

Expressions over sets of characters, and the places in a text at which a match
that begins at a place can end. A repetition comes to an end because there are
no more places than characters.
-/

open Text

/-- A set of characters. -/
inductive CharSet where
  | nothing
  | range (low high : Nat)
  | property (points : CodePointSet)
  | alphabetic
  | word
  | blank
  | union (left right : CharSet)
  | intersection (left right : CharSet)
  | difference (left right : CharSet)
  | exclusive (left right : CharSet)
  | complement (set : CharSet)
  /-- The characters that differ in case at most from one in a set. -/
  | anyCase (set : CharSet)
deriving Repr, Inhabited

namespace CharSet

/-- Whether a character is in a set. -/
def contains : CharSet → Char → Bool
  | .nothing, _ => false
  | .range low high, c => low ≤ c.toNat && c.toNat ≤ high
  | .property points, c => points.containsChar c
  | .alphabetic, c => isAlphabetic c
  | .word, c => isWordChar c
  | .blank, c => isBlank c
  | .union left right, c => left.contains c || right.contains c
  | .intersection left right, c => left.contains c && right.contains c
  | .difference left right, c => left.contains c && !right.contains c
  | .exclusive left right, c => left.contains c != right.contains c
  | .complement set, c => !set.contains c
  | .anyCase set, c => (caseVariants c).any set.contains

/-- The set of one character. -/
def single (c : Char) : CharSet := .range c.toNat c.toNat

end CharSet

/-- A condition on a place in a text. -/
inductive Place where
  | textStart
  | textEnd
  /-- The beginning of a line; with `returns`, also carriage returns end lines. -/
  | lineStart (returns : Bool)
  | lineEnd (returns : Bool)
  | wordBoundary (ascii : Bool)
  | notWordBoundary (ascii : Bool)
  | wordStart (ascii : Bool)
  | wordEnd (ascii : Bool)
  | wordStartHalf (ascii : Bool)
  | wordEndHalf (ascii : Bool)
deriving Repr, DecidableEq, Inhabited

end Regex

/-- A regular expression. -/
inductive Regex where
  | empty
  | oneOf (set : Regex.CharSet)
  | atPlace (condition : Regex.Place)
  | sequence (first second : Regex)
  | choice (first second : Regex)
  | repetition (least : Nat) (most : Option Nat) (body : Regex)
deriving Repr, Inhabited

namespace Regex

open Text

/-! ## Places -/

/-- Whether a character is part of a word, in ASCII or in Unicode. -/
def isWordIn (ascii : Bool) (c : Char) : Bool :=
  if ascii then c.isAlphanum || c == '_' else isWordChar c

/-- Whether a place in a text meets a condition. -/
def Place.holds (text : Array Char) (position : Nat) (condition : Place) : Bool :=
  let before? := if position = 0 then none else text[position - 1]?
  let after? := text[position]?
  let wordBefore (ascii : Bool) : Bool := before?.any (isWordIn ascii)
  let wordAfter (ascii : Bool) : Bool := after?.any (isWordIn ascii)
  match condition with
  | .textStart => position = 0
  | .textEnd => position = text.size
  | .lineStart false => before?.isNone || before? == some '\n'
  | .lineStart true =>
      before?.isNone || before? == some '\n' || (before? == some '\r' && after? != some '\n')
  | .lineEnd false => after?.isNone || after? == some '\n'
  | .lineEnd true =>
      after?.isNone || after? == some '\r' || (after? == some '\n' && before? != some '\r')
  | .wordBoundary ascii => wordBefore ascii != wordAfter ascii
  | .notWordBoundary ascii => wordBefore ascii == wordAfter ascii
  | .wordStart ascii => !wordBefore ascii && wordAfter ascii
  | .wordEnd ascii => wordBefore ascii && !wordAfter ascii
  | .wordStartHalf ascii => !wordBefore ascii
  | .wordEndHalf ascii => !wordAfter ascii

/-! ## Matching -/

/-- Positions without repetitions. -/
def distinct (positions : List Nat) : List Nat :=
  positions.foldl (fun known position =>
    if known.contains position then known else known ++ [position]) []

/-- The positions reached by a step from any of some positions. -/
def stepAll (step : Nat → List Nat) (positions : List Nat) : List Nat :=
  distinct (positions.flatMap step)

/-- The positions reached by exactly a number of steps. -/
def exactly (step : Nat → List Nat) : Nat → List Nat → List Nat
  | 0, positions => positions
  | count + 1, positions =>
      if positions.isEmpty then [] else exactly step count (stepAll step positions)

/-- The positions reached by at most a number of steps. -/
def atMost (step : Nat → List Nat) : Nat → List Nat → List Nat
  | 0, positions => positions
  | count + 1, positions =>
      let more := distinct (positions ++ stepAll step positions)
      if more.length = positions.length then positions else atMost step count more

/-- The positions at which a match from a position can end. -/
def ends (text : Array Char) : Regex → Nat → List Nat
  | .empty, position => [position]
  | .oneOf set, position =>
      if text[position]?.any set.contains then [position + 1] else []
  | .atPlace condition, position => if condition.holds text position then [position] else []
  | .sequence first second, position => stepAll (ends text second) (ends text first position)
  | .choice first second, position =>
      distinct (ends text first position ++ ends text second position)
  | .repetition least most body, position =>
      let start := exactly (ends text body) least [position]
      let further := match most with
        | some most => most - least
        | none => text.size + 1
      atMost (ends text body) (min further (text.size + 1)) start

/-- Whether a match is somewhere in a text. -/
def occursIn (regex : Regex) (text : String) : Bool :=
  let chars := text.toList.toArray
  (List.range (chars.size + 1)).any fun position => !(ends chars regex position).isEmpty

end Regex

end SourceFacts
