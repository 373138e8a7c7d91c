import SourceFacts.Extraction.Classes
import SourceFacts.Extraction.Imports
import SourceFacts.Text.Pieces

namespace SourceFacts.Extraction

/-!
# The structure of a file

Two walks over the tree, on one budget. The first finds what is defined at the
level of the module, also inside its compound statements; the second finds
imports, decisions and type hints anywhere.
-/

open Syntax Facts

/-- Whether what stands in a node of a kind still stands at the level of the module. -/
def isModuleLevel (kind : String) : Bool :=
  ["module", "block", "if_statement", "elif_clause", "else_clause", "try_statement",
    "except_clause", "except_group_clause", "finally_clause", "with_statement",
    "for_statement", "while_statement", "ERROR"].contains kind

/-- What is defined at the level of the module. -/
structure Definitions where
  functions : List Function := []
  classes : List Facts.Class := []
  globals : List String := []
deriving Repr, DecidableEq, Inhabited

/-- Adds the definition that a node is, which may be decorated. -/
def addDefinition (source : Source) (node : Node) (depth : Nat) (budget : Budget)
    (found : Definitions) : Budget × Definitions :=
  let (definition, decorators) := source.undecorated node
  match definition.kind with
  | "function_definition" =>
      let (budget, function?) := function? source definition decorators depth budget
      (budget, { found with functions := found.functions ++ function?.toList })
  | "class_definition" =>
      let (budget, class?) := class? source definition decorators depth budget
      (budget, { found with classes := found.classes ++ class?.toList })
  | _ => (budget, found)

/-- Takes note of a node that may stand at the level of the module. -/
def visitModuleLevel (source : Source) : Visitor Definitions :=
  fun node depth budget found =>
    match node.kind with
    | "function_definition" | "class_definition" | "decorated_definition" =>
        let (budget, found) := addDefinition source node depth budget found
        (.skip, budget, found)
    | "expression_statement" =>
        let names := assignedNames source node
        (.skip, budget,
          { found with
            globals := names.foldl (fun known name => insertName name known) found.globals })
    | kind => (if isModuleLevel kind then .into else .skip, budget, found)

/-- What is found anywhere in a file. -/
structure Occurrences where
  imports : List Import := []
  decisions : Nat := 0
  usesTypeHints : Bool := false
deriving Repr, DecidableEq, Inhabited

/-- Whether a node gives the type of something. -/
def isTypeHint (node : Node) : Bool :=
  match node.kind with
  | "typed_parameter" | "typed_default_parameter" => true
  | "function_definition" => (node.child? "return_type").isSome
  | "assignment" => (node.child? "type").isSome
  | _ => false

/-- Takes note of a node anywhere in a file. -/
def visitAnywhere (source : Source) (node : Node) (_depth : Nat) (found : Occurrences) :
    Descent × Occurrences :=
  if isImport node.kind then
    (.skip, { found with imports := found.imports ++ imports source node })
  else
    (.into,
      { found with
        decisions := found.decisions + (if isDecisionPoint node.kind then 1 else 0)
        usesTypeHints := found.usesTypeHints || isTypeHint node })

/-- The structure of a file with a path and a text, as far as a budget allows,
and what is left of the budget. -/
def model (path : String) (text : String) (root : Node) (budget : Budget) : Budget × Model :=
  let source := Source.ofString text
  let (budget, definitions) := walk (visitModuleLevel source) root 0 budget {}
  let (budget, occurrences) := walk (Visitor.ofStep (visitAnywhere source)) root 0 budget {}
  let model : Model := {
    path
    functions := definitions.functions
    classes := definitions.classes
    imports := occurrences.imports
    globals := definitions.globals
    complexity := complexityOf occurrences.decisions
    lineCount := UInt64.ofNat (Text.lineCount text)
    usesTypeHints := occurrences.usesTypeHints
    docstring := source.docstring? root
    truncated := budget.truncated }
  (budget, model)

end SourceFacts.Extraction
