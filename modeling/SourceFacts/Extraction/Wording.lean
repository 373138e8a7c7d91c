import SourceFacts.Python.Docstring
import SourceFacts.Syntax.Node
import SourceFacts.Text.Pieces

namespace SourceFacts.Extraction

/-!
# The wording of nodes

What the source says at a node, and the docstrings and decorators that are read
from it.
-/

open Syntax

/-- A source text. -/
structure Source where
  chars : Array Char
deriving Inhabited

namespace Source

/-- The source with a text. -/
def ofString (text : String) : Source := ⟨text.toList.toArray⟩

/-- What a source says at a node. -/
def textOf (source : Source) (node : Node) : String :=
  String.ofList (source.chars.extract node.info.start.chars node.info.stop.chars).toList

/-- What a source says at a node, without blanks around it. -/
def trimmedTextOf (source : Source) (node : Node) : String := Text.trim (source.textOf node)

/-- The bytes of a value that are kept. -/
def maxValueBytes : Nat := 120

/-- What a source says at a node for a value; long values are cut. -/
def valueTextOf (source : Source) (node : Node) : String :=
  let text := source.trimmedTextOf node
  if text.utf8ByteSize ≤ maxValueBytes then text
  else Text.cut maxValueBytes text ++ "..."

/-- What a source says at the child in a field, if it says anything. -/
def fieldText? (source : Source) (node : Node) (field : String) : Option String := do
  let text := source.trimmedTextOf (← node.child? field)
  if text.isEmpty then none else some text

/-- The docstring of a body: its first statement, if that is a string. -/
def docstring? (source : Source) (body : Node) : Option String := do
  let first ← body.namedChildren.find? (!·.isExtra)
  if first.kind ≠ "expression_statement" then none
  else
    let value ← first.firstNamed?
    if value.kind ≠ "string" then none
    else
      let text := Python.Docstring.clean (source.textOf value)
      if text.isEmpty then none else some text

/-- What a decorator says, without the sign before it. -/
def decoratorText (source : Source) (decorator : Node) : String :=
  let text := (source.trimmedTextOf decorator).toList.dropWhile (· == '@')
  Text.trim (String.ofList text)

/-- The decorators of a decorated definition, in order. -/
def decorators (source : Source) (node : Node) : List String :=
  (node.namedChildren.filter (·.kind == "decorator")).map source.decoratorText

/-- The definition under decorators, together with these. -/
def undecorated (source : Source) (node : Node) : Node × List String :=
  if node.kind = "decorated_definition" then
    match node.child? "definition" with
    | some definition => (definition, source.decorators node)
    | none => (node, [])
  else (node, [])

end Source

end SourceFacts.Extraction
