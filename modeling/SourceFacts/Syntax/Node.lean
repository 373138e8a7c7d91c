import SourceFacts.Parsing.Extent

namespace SourceFacts.Syntax

/-!
# Syntax trees

The concrete syntax tree of a text. Every token that is shown is a node, so that
operators and brackets appear among the children, as do comments. Nodes know
where they stand in the text and under which field of their parent.
-/

open Parsing

/-- What there is to know about a node besides its children. -/
structure NodeInfo where
  kind : String
  /-- Whether the kind is the name of a rule rather than a piece of text. -/
  isNamed : Bool := true
  /-- Whether the node may stand anywhere, as comments do. -/
  isExtra : Bool := false
  /-- Whether the node covers text that fits nowhere. -/
  isError : Bool := false
  /-- Whether the node stands for a token that is not in the text. -/
  isMissing : Bool := false
  /-- Whether there is an error in the node. -/
  hasError : Bool := false
  field? : Option String := none
  start : Extent := {}
  stop : Extent := {}
deriving Repr, Inhabited

/-- A node of a syntax tree. -/
inductive Node where
  | mk (info : NodeInfo) (children : List Node)
deriving Repr, Inhabited

namespace Node

/-- What there is to know about a node besides its children. -/
def info : Node → NodeInfo
  | .mk info _ => info

/-- The children of a node. -/
def children : Node → List Node
  | .mk _ children => children

/-- The kind of a node. -/
def kind (node : Node) : String := node.info.kind

/-- Whether the kind of a node is the name of a rule. -/
def isNamed (node : Node) : Bool := node.info.isNamed

/-- Whether a node may stand anywhere. -/
def isExtra (node : Node) : Bool := node.info.isExtra

/-- Whether a node covers text that fits nowhere. -/
def isError (node : Node) : Bool := node.info.isError

/-- Whether a node stands for a token that is not in the text. -/
def isMissing (node : Node) : Bool := node.info.isMissing

/-- Whether there is an error in a node. -/
def hasError (node : Node) : Bool := node.info.hasError

/-- The children that are instances of rules. -/
def namedChildren (node : Node) : List Node := node.children.filter (·.isNamed)

/-- The first child that is an instance of a rule. -/
def firstNamed? (node : Node) : Option Node := node.children.find? (·.isNamed)

/-- The children in a field. -/
def childrenIn (node : Node) (field : String) : List Node :=
  node.children.filter (·.info.field? == some field)

/-- The first child in a field. -/
def child? (node : Node) (field : String) : Option Node :=
  node.children.find? (·.info.field? == some field)

end Node

end SourceFacts.Syntax
