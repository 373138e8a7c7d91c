import SourceFacts.Syntax.Node
import SourceFacts.Text.Pieces

namespace SourceFacts.Facts

/-!
# Facts about source files

What is known of a file, and where in its text it stands.
-/

/-!
## Spans

Where a fact stands in its text. Lines begin at one, columns are bytes and
begin at zero.
-/

/-- A piece of a text. -/
structure Span where
  startLine : UInt32 := 0
  startColumn : UInt32 := 0
  endLine : UInt32 := 0
  endColumn : UInt32 := 0
deriving Repr, DecidableEq, Inhabited

namespace Span

/-- The span of a fact that stands nowhere. -/
def zero : Span := {}

/-- The line of a position. -/
def lineOf (position : Parsing.Extent) : UInt32 := UInt32.ofNat position.rows + 1

/-- The span of a node. -/
def ofNode (node : Syntax.Node) : Span where
  startLine := lineOf node.info.start
  startColumn := UInt32.ofNat node.info.start.columns
  endLine := lineOf node.info.stop
  endColumn := UInt32.ofNat node.info.stop.columns

/-- The first and the last line of a span. -/
def lines (span : Span) : UInt32 × UInt32 := (span.startLine, span.endLine)

/-- Whether no line belongs to a span, as its last line comes before its first. -/
def isEmpty (span : Span) : Bool := span.endLine < span.startLine

/-- Whether a span is in order and inside a text with a number of lines, the
empty text having one; the number counts modulo the size of a word. -/
def isWithin (span : Span) (lineCount : Nat) : Bool :=
  1 ≤ span.startLine && span.startLine ≤ span.endLine &&
    span.endLine ≤ UInt32.ofNat (max lineCount 1)

end Span

/-!
## Structural facts

What there is to know about the structure of one source file: its functions,
classes, imports and variables. Lists keep the order of the source.
-/

/-- How a parameter takes its arguments. -/
inductive ParameterKind where
  | regular
  | varPositional
  | varKeyword
deriving Repr, DecidableEq, Inhabited

/-- A parameter of a function. -/
structure Parameter where
  name : String
  typeText : Option String := none
  defaultText : Option String := none
  kind : ParameterKind := .regular
deriving Repr, DecidableEq, Inhabited

/-- A function or a method. -/
structure Function where
  name : String
  parameters : List Parameter := []
  returnType : Option String := none
  isAsync : Bool := false
  isGenerator : Bool := false
  isProperty : Bool := false
  isStaticOrClassMethod : Bool := false
  decorators : List String := []
  docstring : Option String := none
  complexity : UInt32 := 1
  span : Span := {}
deriving Repr, DecidableEq, Inhabited

/-- An attribute of a class or of its instances. -/
structure Attribute where
  name : String
  typeText : Option String := none
  defaultText : Option String := none
  isClassLevel : Bool := true
  isPrivate : Bool := false
deriving Repr, DecidableEq, Inhabited

/-- A class. -/
structure Class where
  name : String
  bases : List String := []
  methods : List Function := []
  attributes : List Attribute := []
  decorators : List String := []
  docstring : Option String := none
  isAbstract : Bool := false
  isDataclass : Bool := false
  /-- Design patterns that the class seems to follow. -/
  patterns : List String := []
  span : Span := {}
deriving Repr, DecidableEq, Inhabited

/-- A name that an import binds. -/
structure ImportedName where
  name : String
  alias? : Option String := none
deriving Repr, DecidableEq, Inhabited

/-- An import of one module. -/
structure Import where
  /-- The dotted name of the module, empty where only dots are written. -/
  moduleName : String
  items : List ImportedName := []
  isFromStyle : Bool := false
  /-- The number of dots before the name of the module. -/
  relativeLevel : Option UInt32 := none
  line : UInt32 := 1
deriving Repr, DecidableEq, Inhabited

/-- A place where a text breaks the rules of its language. -/
structure ParseError where
  message : String
  span : Span := {}
deriving Repr, DecidableEq, Inhabited

/-- The structure of one source file. -/
structure Model where
  path : String
  functions : List Function := []
  classes : List Class := []
  imports : List Import := []
  /-- The names of module-level variables, in order and each once. -/
  globals : List String := []
  complexity : UInt32 := 1
  lineCount : UInt64 := 0
  parseErrors : List ParseError := []
  /-- Frameworks that the file seems to use. -/
  frameworks : List String := []
  usesTypeHints : Bool := false
  docstring : Option String := none
  /-- The encoding, if the file was not in UTF-8. -/
  encoding : Option String := none
  /-- Whether a part of the tree was left out. -/
  truncated : Bool := false
deriving Repr, DecidableEq, Inhabited

/-! ### Names -/

/-- Whether a name is private by convention: it begins with an underscore and
is not enclosed in double underscores. -/
def isPrivateName (name : String) : Bool :=
  let dunder := name.utf8ByteSize > 4 && Text.beginsWith name "__" && Text.endsWith name "__"
  Text.beginsWith name "_" && !dunder

/-- The last part of a dotted name. -/
def lastPart (name : String) : String := Text.afterLast '.' name

/-- The name of a decorator without its arguments. -/
def decoratorName (decorator : String) : String := Text.trim (Text.before '(' decorator)

/-- Whether a decorator has a name, written in full or without the part that
leads to its last component. -/
def decoratorMatches (name decorator : String) : Bool :=
  let head := decoratorName decorator
  head == name || lastPart head == name

/-- Puts a name in its place among sorted ones, unless it is there. -/
def insertName (name : String) : List String → List String
  | [] => [name]
  | other :: rest =>
      if name = other then other :: rest
      else if name < other then name :: other :: rest
      else other :: insertName name rest

/-! ### Looking things up -/

namespace Function

/-- The names of the parameters. -/
def parameterNames (function : Function) : List String := function.parameters.map (·.name)

/-- Whether a function has a decorator of a name. -/
def hasDecorator (function : Function) (name : String) : Bool :=
  function.decorators.any (decoratorMatches name)

end Function

namespace Class

/-- The first method of a name. -/
def method? (cls : Class) (name : String) : Option Function :=
  cls.methods.find? (·.name == name)

/-- Whether there is a method of a name. -/
def hasMethod (cls : Class) (name : String) : Bool := (cls.method? name).isSome

/-- The first attribute of a name that belongs to the class itself. -/
def classAttribute? (cls : Class) (name : String) : Option Attribute :=
  cls.attributes.find? fun candidate => candidate.isClassLevel && candidate.name == name

/-- Whether a class has a decorator of a name. -/
def hasDecorator (cls : Class) (name : String) : Bool :=
  cls.decorators.any (decoratorMatches name)

/-- Whether a class seems to follow a design pattern. -/
def hasPattern (cls : Class) (pattern : String) : Bool := cls.patterns.contains pattern

end Class

namespace Import

/-- The first part of the name of the module. -/
def rootModule (fact : Import) : String := Text.before '.' fact.moduleName

/-- Whether all names of the module are imported. -/
def isStar (fact : Import) : Bool := fact.items.any (·.name == "*")

end Import

namespace Model

/-- The first class of a name. -/
def class? (model : Model) (name : String) : Option Class :=
  model.classes.find? (·.name == name)

/-- The first function of a name. -/
def function? (model : Model) (name : String) : Option Function :=
  model.functions.find? (·.name == name)

/-- Whether a file seems to use a framework. -/
def hasFramework (model : Model) (framework : String) : Bool :=
  model.frameworks.contains framework

/-- The functions, then the methods. -/
def allFunctions (model : Model) : List Function :=
  model.functions ++ model.classes.flatMap (·.methods)

end Model

end SourceFacts.Facts
