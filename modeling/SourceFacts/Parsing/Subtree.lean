import SourceFacts.Parsing.Lexing

namespace SourceFacts.Parsing

/-!
# Subtrees

What the parser builds: tokens with the blanks before them, and nodes over
children. Every subtree carries a summary of what is below it, from which the
parser tells how badly a parse had to bend the grammar and which of two parses
to prefer.
-/

open Grammar

/-! ## Costs of errors -/

/-- Cost of recovering from an error. -/
def recoveryCost : Nat := 500

/-- Cost of a token that had to be made up. -/
def missingTokenCost : Nat := 110

/-- Cost of a subtree that had to be skipped. -/
def skippedTreeCost : Nat := 100

/-- Cost of a byte that had to be skipped. -/
def skippedByteCost : Nat := 1

/-- Cost of a line that had to be skipped. -/
def skippedLineCost : Nat := 30

/-- What a parser knows of a subtree without looking into it. -/
structure Summary (σ : Type) where
  symbol : SymbolId
  /-- The blanks before the subtree. -/
  padding : Extent := {}
  size : Extent := {}
  isExtra : Bool := false
  isMissing : Bool := false
  /-- Whether the token was looked up among the keywords and found. -/
  isKeyword : Bool := false
  /-- The state in which a token was read. -/
  state : Nat := 0
  /-- The memory of the layout scanner after a token it produced. -/
  layout? : Option σ := none
  /-- Whether the layout scanner's memory changed with the token. -/
  changesLayout : Bool := false
  /-- The memory of the layout scanner after the last layout token below. -/
  lastLayout? : Option σ := none
  errorCost : Nat := 0
  childCount : Nat := 0
  /-- Number of visible nodes below. -/
  visibleBelow : Nat := 0
  /-- Number of children once hidden nodes are replaced by theirs. -/
  visibleChildren : Nat := 0
  dynamicPrecedence : Int := 0
  shape : Nat := 0
deriving Inhabited

/-- A token or a node with its children. -/
inductive Subtree (σ : Type) where
  | node (summary : Summary σ) (children : List (Subtree σ))
deriving Inhabited

namespace Subtree

variable {σ : Type}

/-- The summary of a subtree. -/
def summary : Subtree σ → Summary σ
  | .node summary _ => summary

/-- The children of a subtree. -/
def children : Subtree σ → List (Subtree σ)
  | .node _ children => children

/-- The symbol of a subtree. -/
def symbol (tree : Subtree σ) : SymbolId := tree.summary.symbol

/-- Whether the subtree is an extra token, or an error among extras. -/
def isExtra (tree : Subtree σ) : Bool := tree.summary.isExtra

/-- Whether the subtree is an error. -/
def isError (tree : Subtree σ) : Bool := tree.symbol == Language.errorSymbol

/-- Whether the subtree is the end of the input. -/
def isEnd (tree : Subtree σ) : Bool := tree.symbol == Language.endSymbol

/-- The cost of the errors in a subtree. -/
def errorCost (tree : Subtree σ) : Nat :=
  if tree.summary.isMissing then missingTokenCost + recoveryCost else tree.summary.errorCost

/-- The extent of a subtree with the blanks before it. -/
def total (tree : Subtree σ) : Extent := tree.summary.padding + tree.summary.size

/-- Change the summary of a subtree. -/
def modify (f : Summary σ → Summary σ) : Subtree σ → Subtree σ
  | .node summary children => .node (f summary) children

/-- A token. The end of the input counts as an extra. -/
def token (summary : Summary σ) : Subtree σ :=
  .node { summary with
    isExtra := summary.symbol == Language.endSymbol
    lastLayout? := summary.layout? } []

/-- The alias of a child by its position among the children that are not extras. -/
def aliasAt (language : Language) (shape position : Nat) : Option Alias :=
  ((language.shapes.getD shape {}).aliases.getD position none)

/-- The running totals over the children of a node. -/
structure Totals (σ : Type) where
  padding : Extent := {}
  size : Extent := {}
  isFirst : Bool := true
  errorCost : Nat := 0
  position : Nat := 0
  visibleBelow : Nat := 0
  visibleChildren : Nat := 0
  dynamicPrecedence : Int := 0
  lastLayout? : Option σ := none

/-- Add a child to the totals of a node. -/
def Totals.add (language : Language) (symbol shape : Nat) (totals : Totals σ)
    (child : Subtree σ) : Totals σ :=
  let summary := child.summary
  let isError := symbol == Language.errorSymbol || symbol == Language.skippedSymbol
  let isVisible := (language.info summary.symbol).isVisible
  let ownCost :=
    if summary.symbol == Language.skippedSymbol then 0 else child.errorCost
  let skippedCost :=
    if isError && !summary.isExtra && !(child.isError && summary.childCount == 0) then
      if isVisible then skippedTreeCost
      else if summary.childCount > 0 then skippedTreeCost * summary.visibleChildren
      else 0
    else 0
  let isShown := isVisible ||
    (!summary.isExtra && (aliasAt language shape totals.position).isSome)
  { padding := if totals.isFirst then summary.padding else totals.padding
    size := if totals.isFirst then summary.size else totals.size + child.total
    isFirst := false
    errorCost := totals.errorCost + ownCost + skippedCost
    position := if summary.isExtra then totals.position else totals.position + 1
    visibleBelow := totals.visibleBelow + summary.visibleBelow + (if isShown then 1 else 0)
    visibleChildren := totals.visibleChildren +
      (if isShown then 1 else if summary.childCount > 0 then summary.visibleChildren else 0)
    dynamicPrecedence := totals.dynamicPrecedence + summary.dynamicPrecedence
    lastLayout? := summary.lastLayout?.or totals.lastLayout? }

/-- A node over the given children. -/
def ofChildren (language : Language) (symbol : SymbolId) (children : List (Subtree σ))
    (shape : Nat) : Subtree σ :=
  let totals : Totals σ :=
    children.foldl (fun totals child => totals.add language symbol shape child) {}
  let isError := symbol == Language.errorSymbol || symbol == Language.skippedSymbol
  let ownCost :=
    if isError then
      recoveryCost + skippedByteCost * totals.size.bytes + skippedLineCost * totals.size.rows
    else 0
  .node {
    symbol
    padding := totals.padding
    size := totals.size
    lastLayout? := totals.lastLayout?
    errorCost := totals.errorCost + ownCost
    childCount := children.length
    visibleBelow := totals.visibleBelow
    visibleChildren := totals.visibleChildren
    dynamicPrecedence := totals.dynamicPrecedence
    shape } children

/-- An error over the given children. -/
def error (language : Language) (children : List (Subtree σ)) (isExtra : Bool) : Subtree σ :=
  (ofChildren language Language.errorSymbol children 0).modify ({ · with isExtra })

/-- Move the extras at the end of a list of subtrees into a list of their own. -/
def splitExtras (trees : List (Subtree σ)) : List (Subtree σ) × List (Subtree σ) :=
  let extras := (trees.reverse.takeWhile (·.isExtra)).reverse
  (trees.take (trees.length - extras.length), extras)

mutual

/-- Compare subtrees by their symbols and numbers of children, from the top. -/
def compare : Subtree σ → Subtree σ → Ordering
  | .node a children, .node b others =>
      ((Ord.compare a.symbol b.symbol).then (Ord.compare a.childCount b.childCount)).then
        (compareAll children others)

/-- Compare lists of subtrees one by one. -/
def compareAll : List (Subtree σ) → List (Subtree σ) → Ordering
  | a :: rest, b :: others => (compare a b).then (compareAll rest others)
  | _, _ => .eq

end

/-- Whether the second of two subtrees for the same text is the better one. -/
def prefersSecond (left right : Subtree σ) : Bool :=
  if right.errorCost < left.errorCost then true
  else if left.errorCost < right.errorCost then false
  else if right.summary.dynamicPrecedence > left.summary.dynamicPrecedence then true
  else if left.summary.dynamicPrecedence > right.summary.dynamicPrecedence then false
  else if left.errorCost > 0 then true
  else compare left right == .gt

end Subtree

end SourceFacts.Parsing
