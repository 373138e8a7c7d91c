import SourceFacts.Grammar.Production

namespace SourceFacts.Grammar

/-!
# The lexicon of a grammar

The patterns of all tokens are compiled into one nondeterministic automaton, in
which the blanks before a token are marked. A set of its states says which
tokens can still be matched. Among tokens that match the same text the one of
higher precedence wins, then the more specific one, then the earlier one; whether
a finished match may be extended is decided by the same precedences.
-/

/-- A state of the lexical automaton. -/
inductive LexicalState where
  /-- A token has been matched. -/
  | accept (token : Nat) (precedence : Int)
  /-- One more character, which is part of the blanks or of the token. -/
  | read (letters : LetterSet) (next : Nat) (isBlank : Bool) (precedence : Int)
  /-- Either of two states, without reading anything. -/
  | fork (left right : Nat)
deriving Repr, Inhabited

/-- The compiled patterns of all tokens. -/
structure Lexicon where
  states : Array LexicalState
  /-- The states reached from each state without reading, in increasing order. -/
  reach : Array (List Nat)
  /-- The token each state belongs to. -/
  owner : Array Nat
  /-- The first state of each token. -/
  start : Array Nat
  specificity : Array Nat

namespace Lexicon

/-! ## Compilation -/

/--
Add the states of a pattern that continue with state `next`, and return the
first of them.
-/
def compile (isBlank : Bool) (precedence : Int) :
    Pattern → Nat → Array LexicalState → Nat × Array LexicalState
  | .empty, next, states => (next, states)
  | .letters set, next, states =>
      (states.size, states.push (.read set next isBlank precedence))
  | .seq first second, next, states =>
      let (middle, states) := compile isBlank precedence second next states
      compile isBlank precedence first middle states
  | .either left right, next, states =>
      let (left, states) := compile isBlank precedence left next states
      let (right, states) := compile isBlank precedence right next states
      (states.size, states.push (.fork left right))
  | .oneOrMore body, next, states =>
      let again := states.size
      let (first, states) := compile isBlank precedence body again (states.push (.fork next next))
      (first, states.set! again (.fork first next))

/-- Insert a number into an increasing list. -/
def insertSorted (n : Nat) : List Nat → List Nat
  | [] => [n]
  | m :: rest =>
      if n < m then n :: m :: rest
      else if n = m then m :: rest
      else m :: insertSorted n rest

/-- The union of two increasing lists. -/
def mergeSorted (left right : List Nat) : List Nat :=
  left.foldl (fun found n => insertSorted n found) right

/-- Collect the states reached without reading from those on the work list. -/
def collectReach (states : Array LexicalState) :
    Nat → List Nat → List Nat → List Nat → List Nat
  | 0, _, _, found => found
  | _, [], _, found => found
  | fuel + 1, n :: pending, seen, found =>
      if seen.contains n then collectReach states fuel pending seen found
      else
        match states.getD n default with
        | .fork left right =>
            collectReach states fuel (left :: right :: pending) (n :: seen) found
        | _ => collectReach states fuel pending (n :: seen) (insertSorted n found)

/-- Compile the tokens of a grammar. -/
def ofTokens (tokens : Array (Entry Lexeme)) (blanks : Pattern) : Lexicon := Id.run do
  let mut states : Array LexicalState := #[]
  let mut start : Array Nat := #[]
  let mut owner : Array Nat := #[]
  for h : i in [0:tokens.size] do
    let lexeme := tokens[i].content
    let accepted := states.size
    states := states.push (.accept i lexeme.precedence)
    let (first, next) := compile false lexeme.precedence lexeme.pattern accepted states
    states := next
    let mut entry := first
    if !lexeme.immediate then
      let (first, next) := compile true 0 (.many blanks) first states
      states := next
      entry := first
    start := start.push entry
    owner := owner ++ Array.replicate (states.size - owner.size) i
  let compiled := states
  return {
    states := compiled
    reach := (Array.range compiled.size).map fun n =>
      collectReach compiled (4 * compiled.size) [n] [] []
    owner, start
    specificity := tokens.map (·.content.specificity)
  }

/-! ## Sets of states -/

/-- The states in which the given tokens can begin. -/
def startOf (lexicon : Lexicon) (tokens : List Nat) : List Nat :=
  tokens.foldl
    (fun found token =>
      mergeSorted (lexicon.reach.getD (lexicon.start.getD token 0) []) found)
    []

/-- The tokens that can still be matched from a set of states, each once. -/
def tokensOf (lexicon : Lexicon) (states : List Nat) : List Nat :=
  (states.map fun n => lexicon.owner.getD n 0).eraseDups

/-- The tokens matched in a set of states, with their precedences. -/
def completions (lexicon : Lexicon) (states : List Nat) : List (Nat × Int) :=
  states.filterMap fun n =>
    match lexicon.states.getD n default with
    | .accept token precedence => some (token, precedence)
    | _ => none

/-- Whether some state of the set reads blanks. -/
def readsBlank (lexicon : Lexicon) (states : List Nat) : Bool :=
  states.any fun n =>
    match lexicon.states.getD n default with
    | .read _ _ isBlank _ => isBlank
    | _ => false

/-- What happens when one of some letters is read. -/
structure Transition where
  letters : LetterSet
  states : List Nat
  isBlank : Bool
  precedence : Int
deriving Repr

/--
Add one more way of reading to a list of transitions over disjoint letters,
splitting those it overlaps.
-/
def addReading (letters : LetterSet) (targets : List Nat) (isBlank : Bool) (precedence : Int) :
    List Transition → List Transition
  | [] =>
      if letters.isEmpty then []
      else [{ letters, states := targets, isBlank, precedence }]
  | known :: rest =>
      let shared := known.letters.inter letters
      if shared.isEmpty then
        known :: addReading letters targets isBlank precedence rest
      else
        let both : Transition := {
          letters := shared
          states := mergeSorted targets known.states
          isBlank := known.isBlank && isBlank
          precedence := max known.precedence precedence }
        let remaining := addReading (letters.diff shared) targets isBlank precedence rest
        let only := known.letters.diff shared
        if only.isEmpty then both :: remaining
        else both :: { known with letters := only } :: remaining

/-- The transitions from a set of states, over disjoint sets of letters. -/
def transitions (lexicon : Lexicon) (states : List Nat) : List Transition :=
  states.foldl
    (fun found n =>
      match lexicon.states.getD n default with
      | .read letters next isBlank precedence =>
          addReading letters (lexicon.reach.getD next []) isBlank precedence found
      | _ => found)
    []

/-- The transition from a set of states on one letter. -/
def transition? (lexicon : Lexicon) (states : List Nat) (letter : Letter) :
    Option Transition :=
  states.foldl
    (fun found n =>
      match lexicon.states.getD n default with
      | .read letters next isBlank precedence =>
          if !letters.contains letter then found
          else
            let targets := lexicon.reach.getD next []
            match found with
            | none => some { letters := .single letter, states := targets, isBlank, precedence }
            | some known => some {
                letters := known.letters
                states := mergeSorted targets known.states
                isBlank := known.isBlank && isBlank
                precedence := max known.precedence precedence }
      | _ => found)
    none

/-! ## Preferences -/

/-- Whether the first of two tokens that match the same text wins. -/
def prefersToken (lexicon : Lexicon) (left right : Nat × Int) : Bool :=
  if left.2 > right.2 then true
  else if left.2 < right.2 then false
  else
    let a := lexicon.specificity.getD left.1 0
    let b := lexicon.specificity.getD right.1 0
    if a < b then false else if a > b then true else left.1 < right.1

/-- The token that wins among those matched in a set of states. -/
def winner? (lexicon : Lexicon) (states : List Nat) : Option (Nat × Int) :=
  (lexicon.completions states).foldl
    (fun best found =>
      match best with
      | none => some found
      | some chosen => if lexicon.prefersToken chosen found then best else some found)
    none

/-- Whether a match that is complete may be extended by a transition. -/
def prefersTransition (lexicon : Lexicon) (transition : Transition)
    (completed : Nat × Int) (readsBlank : Bool) : Bool :=
  if transition.precedence < completed.2 then false
  else if transition.precedence = completed.2 then
    if transition.isBlank then false
    else !(readsBlank && !(lexicon.tokensOf transition.states).contains completed.1)
  else true

end Lexicon

end SourceFacts.Grammar
