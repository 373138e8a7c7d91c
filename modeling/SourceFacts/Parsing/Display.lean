import SourceFacts.Parsing.Engine
import SourceFacts.Syntax.Node

namespace SourceFacts.Parsing

/-!
# From subtrees to syntax trees

Hidden subtrees are replaced by their children, and every node gets its name,
its place in the text and its field. A hidden subtree hands its own field on to
those children that have none.
-/

open Grammar Syntax

variable {σ : Type}

/-- How a child is shown by its parent. -/
structure Showing where
  alias? : Option Alias := none
  field? : Option String := none

/-- How the child at a position is shown by a parent of the given shape. -/
def Showing.ofShape (language : Language) (shape position : Nat) : Showing where
  alias? := Subtree.aliasAt language shape position
  field? := ((language.shapes.getD shape {}).fields.getD position (none, [])).1

mutual

/-- The nodes that show a subtree beginning at a position. -/
def display (language : Language) (showing : Showing) (position : Extent) :
    Subtree σ → List Node
  | .node summary children =>
      let info := language.info summary.symbol
      let tree := Subtree.node summary children
      let showing := if summary.isExtra then {} else showing
      let start := position + summary.padding
      let node (kind : String) (isNamed : Bool) : Node :=
        .mk {
          kind, isNamed
          isExtra := summary.isExtra
          isError := summary.symbol == Language.errorSymbol
          isMissing := summary.isMissing
          hasError := tree.errorCost > 0
          field? := showing.field?
          start
          stop := start + summary.size }
          (displayAll language summary.shape none 0 position children)
      match showing.alias? with
      | some shown => [node shown.name shown.named]
      | none =>
          if info.isVisible then [node info.name info.isNamed]
          else displayAll language summary.shape showing.field? 0 position children

/-- The nodes that show a list of children, from a position of their shape on. -/
def displayAll (language : Language) (shape : Nat) (field? : Option String) (place : Nat)
    (position : Extent) : List (Subtree σ) → List Node
  | [] => []
  | child :: rest =>
      let showing := Showing.ofShape language shape place
      let showing := { showing with field? := showing.field?.or field? }
      let place := if child.isExtra then place else place + 1
      display language showing position child ++
        displayAll language shape field? place (position + child.total) rest

end

/-- The syntax tree of a text, if the parse comes to an end. -/
def SyntaxRules.tree? [DecidableEq σ] (definition : SyntaxRules σ) (text : Array Char) :
    Option Node := do
  let tree ← definition.parse? text
  (display definition.language {} {} tree).head?

end SourceFacts.Parsing
