import SourceFacts.Extraction.Wording
import SourceFacts.Facts.Model

namespace SourceFacts.Extraction

/-!
# Facts about imports

A plain statement imports modules, one fact each. A statement with `from`
imports names of one module, which dots before its name make relative.
-/

open Syntax Facts

/-- The name that a node in a list of names stands for. -/
def importedName? (source : Source) (node : Node) : Option ImportedName :=
  match node.kind with
  | "dotted_name" | "identifier" => some { name := source.trimmedTextOf node }
  | "aliased_import" =>
      (node.child? "name").map fun name =>
        { name := source.trimmedTextOf name
          alias? := (node.child? "alias").map source.trimmedTextOf }
  | _ => none

/-- The names in an import statement. -/
def importedNames (source : Source) (node : Node) : List ImportedName :=
  (node.childrenIn "name").filterMap (importedName? source)

/-- The module that a statement imports from, and how many dots precede it. -/
def importedModule (source : Source) (node : Node) : String × Option UInt32 :=
  let text := source.trimmedTextOf node
  if node.kind = "relative_import" then
    let dots := text.toList.takeWhile (· == '.')
    let rest := String.ofList (text.toList.dropWhile (· == '.'))
    (Text.trim rest, some (UInt32.ofNat dots.length))
  else (text, none)

/-- The fact about a statement that imports names of a module. -/
def importFrom? (source : Source) (node : Node) : Option Import := do
  let (moduleName, relativeLevel) := importedModule source (← node.child? "module_name")
  let star : List ImportedName :=
    if node.namedChildren.any (·.kind == "wildcard_import") then [{ name := "*" }] else []
  return {
    moduleName
    items := importedNames source node ++ star
    isFromStyle := true
    relativeLevel
    line := Span.lineOf node.info.start }

/-- The facts about an import statement. -/
def imports (source : Source) (node : Node) : List Import :=
  let line := Span.lineOf node.info.start
  match node.kind with
  | "import_statement" =>
      (importedNames source node).map fun item =>
        { moduleName := item.name, items := [item], line }
  | "import_from_statement" => (importFrom? source node).toList
  | "future_import_statement" =>
      [{ moduleName := "__future__", items := importedNames source node,
         isFromStyle := true, line }]
  | _ => []

/-- Whether nodes of a kind are import statements. -/
def isImport (kind : String) : Bool :=
  ["import_statement", "import_from_statement", "future_import_statement"].contains kind

end SourceFacts.Extraction
