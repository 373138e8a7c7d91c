import SourceFacts.Analysis.Failure
import SourceFacts.Facts.Model
import SourceFacts.Syntax.Walk

namespace SourceFacts.Analysis

/-!
# Parsed texts

A tree with errors is still used, as long as one of its statements is free of
them. The errors are the outermost nodes that fit nowhere or are missing.
-/

open Syntax Facts

/-- How many errors are reported of one text. -/
def maxReportedErrors : Nat := 100

/-- A syntax tree together with what is wrong in it. -/
structure Parsed where
  root : Node
  errors : List ParseError
deriving Repr, Inhabited

namespace Parsed

/-- Whether anything is wrong in the text. -/
def hasErrors (parsed : Parsed) : Bool := parsed.root.hasError

/-- The error that a node is. -/
def error? (node : Node) : Option ParseError :=
  if node.isError then some { message := "unexpected token(s)", span := Span.ofNode node }
  else if node.isMissing then
    some { message := "missing " ++ node.kind, span := Span.ofNode node }
  else none

/-- Whether an error may be found at a node or below it. -/
def isSuspect (node : Node) : Bool := node.hasError || node.isMissing

/-- Looks for errors at the nodes that wait, in order, and below those that are none, until as
many are found as are reported. Children without errors are left alone. -/
def searchErrors (waiting : List Node) (found : List ParseError) : List ParseError :=
  match waiting with
  | [] => found
  | node :: rest =>
      if maxReportedErrors ≤ found.length then found
      else
        match error? node with
        | some error => searchErrors rest (found ++ [error])
        | none => searchErrors (node.children.filter isSuspect ++ rest) found
termination_by countAll waiting
decreasing_by
  · simp only [countAll]
    have := node.count_eq
    omega
  · simp only [countAll, countAll_append]
    have := node.count_eq
    have := countAll_filter_le isSuspect node.children
    omega

/-- Whether a node is a statement without errors. -/
def isCleanStatement (node : Node) : Bool :=
  (Text.endsWith node.kind "_statement" || Text.endsWith node.kind "_definition") &&
    !node.isExtra && !node.hasError

/-- The class definition that a node is, under decorators or not. -/
def classDefinition? (node : Node) : Option Node :=
  match node.kind with
  | "class_definition" => some node
  | "decorated_definition" => (node.child? "definition").filter (·.kind == "class_definition")
  | _ => none

/-- Whether a node is a class with a statement without errors in its body. -/
def isUsableClass (node : Node) : Bool :=
  match (classDefinition? node).bind (·.child? "body") with
  | none => false
  | some body => body.namedChildren.any isCleanStatement

/-- Whether a tree has a statement without errors, itself in the module or in a
class of it. -/
def hasUsableStatement (root : Node) : Bool :=
  root.kind == "module" &&
    root.namedChildren.any fun node => isCleanStatement node || isUsableClass node

/-- The first errors in a tree, outermost only. -/
def reportedErrors (root : Node) : List ParseError := searchErrors [root] []

/-- A tree with its errors, unless nothing in it can be used. -/
def ofTree (root : Node) : Except Failure Parsed :=
  let errors := reportedErrors root
  if root.hasError && !hasUsableStatement root then
    .error (.syntaxError ((errors.head?.map (·.span.startLine)).getD 1))
  else .ok { root, errors }

end Parsed

end SourceFacts.Analysis
