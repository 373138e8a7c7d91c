import SourceFacts.Grammar.Production

namespace SourceFacts.Grammar

/-!
# Sets of terminal symbols

The terminals of a grammar are numbered: first the layout tokens, then the end
of the input, then the pattern tokens. Sets of terminals are bit sets over these
numbers. Nonterminals are numbered after the terminals, so a number stands for a
symbol of any kind.
-/

/-- How many symbols of each kind a grammar has. -/
structure Vocabulary where
  layoutCount : Nat
  tokenCount : Nat
  nonterminalCount : Nat
deriving Repr, DecidableEq

namespace Vocabulary

/-- The vocabulary of a grammar. -/
def ofGrammar (grammar : PreparedGrammar) : Vocabulary where
  layoutCount := grammar.layout.size
  tokenCount := grammar.tokens.size
  nonterminalCount := grammar.nonterminals.size

/-- Number of terminals. -/
def terminalCount (vocabulary : Vocabulary) : Nat :=
  vocabulary.layoutCount + 1 + vocabulary.tokenCount

/-- Number of symbols. -/
def symbolCount (vocabulary : Vocabulary) : Nat :=
  vocabulary.terminalCount + vocabulary.nonterminalCount

/-- The number of a symbol. -/
def code (vocabulary : Vocabulary) : Symbol → Nat
  | .layout i => i
  | .finish => vocabulary.layoutCount
  | .token i => vocabulary.layoutCount + 1 + i
  | .nonterminal i => vocabulary.terminalCount + i

/-- The symbol of a number. -/
def symbol (vocabulary : Vocabulary) (code : Nat) : Symbol :=
  if code < vocabulary.layoutCount then .layout code
  else if code = vocabulary.layoutCount then .finish
  else if code < vocabulary.terminalCount then .token (code - vocabulary.layoutCount - 1)
  else .nonterminal (code - vocabulary.terminalCount)

end Vocabulary

/-- A set of terminals; bit `c` stands for the terminal with number `c`. -/
abbrev TokenSet := Nat

namespace TokenSet

/-- The set of one terminal. -/
def single (code : Nat) : TokenSet := 1 <<< code

/-- The numbers below `bound` that belong to a set, in increasing order. -/
def toList (set : TokenSet) (bound : Nat) : List Nat :=
  (List.range bound).filter set.testBit

end TokenSet

/-- The terminals that can begin or end the texts of each nonterminal. -/
structure EdgeSets where
  first : Array TokenSet
  last : Array TokenSet

namespace EdgeSets

/--
One round of adding to each nonterminal the terminals at the chosen edge of its
productions.
-/
def grow
    (vocabulary : Vocabulary)
    (edge : Production → Option Step)
    (grammar : PreparedGrammar)
    (sets : Array TokenSet) :
    Array TokenSet :=
  (List.range grammar.nonterminals.size).foldl
    (fun sets i =>
      match grammar.nonterminals[i]? with
      | none => sets
      | some entry =>
          let set := entry.content.foldl
            (fun set production =>
              match edge production with
              | none => set
              | some { symbol := .nonterminal v, .. } => set ||| sets.getD v 0
              | some step => set ||| TokenSet.single (vocabulary.code step.symbol))
            (sets.getD i 0)
          sets.set! i set)
    sets

/-- Repeat `grow` until nothing is added, at most `fuel` times. -/
def close
    (vocabulary : Vocabulary)
    (edge : Production → Option Step)
    (grammar : PreparedGrammar) :
    Nat → Array TokenSet → Array TokenSet
  | 0, sets => sets
  | fuel + 1, sets =>
      let next := grow vocabulary edge grammar sets
      if next == sets then sets else close vocabulary edge grammar fuel next

/-- The edge sets of a grammar. -/
def ofGrammar (grammar : PreparedGrammar) : EdgeSets :=
  let vocabulary := Vocabulary.ofGrammar grammar
  let start := Array.replicate grammar.nonterminals.size 0
  let fuel := grammar.nonterminals.size + 1
  { first := close vocabulary (·.steps[0]?) grammar fuel start
    last := close vocabulary (·.steps.back?) grammar fuel start }

/-- The terminals that can begin the texts of a symbol. -/
def firstOf (sets : EdgeSets) (vocabulary : Vocabulary) : Symbol → TokenSet
  | .nonterminal i => sets.first.getD i 0
  | symbol => TokenSet.single (vocabulary.code symbol)

/-- The terminals that can end the texts of a symbol. -/
def lastOf (sets : EdgeSets) (vocabulary : Vocabulary) : Symbol → TokenSet
  | .nonterminal i => sets.last.getD i 0
  | symbol => TokenSet.single (vocabulary.code symbol)

end EdgeSets

end SourceFacts.Grammar
