import SourceFacts.Grammar.Rule

namespace SourceFacts.Grammar

/-!
# Symbols

The symbols of a prepared grammar. Layout tokens are produced by a scanner of
their own, tokens by their patterns, and nonterminals by productions.
-/

/-- A symbol of a prepared grammar. -/
inductive Symbol where
  /-- A token that only the layout scanner produces. -/
  | layout (index : Nat)
  /-- The end of the input. -/
  | finish
  /-- A token given by a pattern. -/
  | token (index : Nat)
  /-- A nonterminal, defined by productions. -/
  | nonterminal (index : Nat)
deriving Repr, DecidableEq, Hashable, Ord, Inhabited

namespace Symbol

end Symbol

/-- How a symbol shows in the syntax tree. -/
inductive Visibility where
  /-- Not shown; its children take its place. -/
  | hidden
  /-- Not shown, and made up to express a repetition. -/
  | auxiliary
  /-- Shown as a piece of fixed text. -/
  | anonymous
  /-- Shown as a named node. -/
  | named
deriving Repr, DecidableEq

namespace Visibility

/-- Whether nodes of this visibility appear in the tree. -/
def isVisible : Visibility → Bool
  | .anonymous | .named => true
  | .hidden | .auxiliary => false

/-- Whether nodes of this visibility carry the name of a rule. -/
def isNamed : Visibility → Bool
  | .named | .hidden => true
  | .anonymous | .auxiliary => false

/-- Rule names that begin with an underscore are hidden. -/
def ofName (name : String) : Visibility :=
  if name.startsWith "_" then .hidden else .named

end Visibility

/-- A named part of a prepared grammar, with its content. -/
structure Entry (α : Type) where
  name : String
  visibility : Visibility
  content : α
deriving Repr

/-- A token of the layout scanner, possibly shared with the pattern tokens. -/
structure LayoutToken where
  name : String
  visibility : Visibility
  /-- The pattern token the layout token coincides with, if there is one. -/
  token? : Option Nat
deriving Repr

end SourceFacts.Grammar
