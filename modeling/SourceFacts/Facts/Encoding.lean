import SourceFacts.Facts.Model
import SourceFacts.Json.Fields

namespace SourceFacts.Facts

/-!
# Facts as JSON

Every fact is a record. A fact that is absent is null, and may be left out when
it is read.
-/

open Json

/-! ## Spans -/

/-- The fields of a span. -/
def Span.fieldNames : List String := ["start_line", "start_col", "end_line", "end_col"]

/-- A span as a record. -/
def Span.toJson (span : Span) : Json :=
  .object [
    ("start_line", .halfWord span.startLine), ("start_col", .halfWord span.startColumn),
    ("end_line", .halfWord span.endLine), ("end_col", .halfWord span.endColumn)]

/-- The span that a record stands for. -/
def Span.ofJson? (json : Json) : Option Span := do
  let fields ← json.asRecord? fieldNames
  return {
    startLine := ← field? asHalfWord? "start_line" fields
    startColumn := ← field? asHalfWord? "start_col" fields
    endLine := ← field? asHalfWord? "end_line" fields
    endColumn := ← field? asHalfWord? "end_col" fields }

/-! ## Parameters -/

/-- The name of a way to take arguments. -/
def ParameterKind.name : ParameterKind → String
  | .regular => "regular"
  | .varPositional => "var_positional"
  | .varKeyword => "var_keyword"

/-- The way to take arguments that has a name. -/
def ParameterKind.ofName? : String → Option ParameterKind
  | "regular" => some .regular
  | "var_positional" => some .varPositional
  | "var_keyword" => some .varKeyword
  | _ => none

/-- The fields of a parameter. -/
def Parameter.fieldNames : List String := ["name", "type_annotation", "default_value", "kind"]

/-- A parameter as a record. -/
def Parameter.toJson (parameter : Parameter) : Json :=
  .object [
    ("name", .string parameter.name),
    ("type_annotation", orNull .string parameter.typeText),
    ("default_value", orNull .string parameter.defaultText),
    ("kind", .string parameter.kind.name)]

/-- The parameter that a record stands for. -/
def Parameter.ofJson? (json : Json) : Option Parameter := do
  let fields ← json.asRecord? fieldNames
  return {
    name := ← field? asString? "name" fields
    typeText := ← optionalField? asString? "type_annotation" fields
    defaultText := ← optionalField? asString? "default_value" fields
    kind := ← ParameterKind.ofName? (← field? asCase? "kind" fields) }

/-! ## Functions -/

/-- The fields of a function. -/
def Function.fieldNames : List String :=
  ["name", "parameters", "return_type_hint", "is_async", "is_generator", "is_property",
    "is_static_or_class_method", "decorators", "docstring", "complexity", "span"]

/-- A function as a record. -/
def Function.toJson (function : Function) : Json :=
  .object [
    ("name", .string function.name),
    ("parameters", .array (function.parameters.map Parameter.toJson)),
    ("return_type_hint", orNull .string function.returnType),
    ("is_async", .bool function.isAsync),
    ("is_generator", .bool function.isGenerator),
    ("is_property", .bool function.isProperty),
    ("is_static_or_class_method", .bool function.isStaticOrClassMethod),
    ("decorators", .strings function.decorators),
    ("docstring", orNull .string function.docstring),
    ("complexity", .halfWord function.complexity),
    ("span", function.span.toJson)]

/-- The function that a record stands for. -/
def Function.ofJson? (json : Json) : Option Function := do
  let fields ← json.asRecord? fieldNames
  return {
    name := ← field? asString? "name" fields
    parameters := ← field? (asList? Parameter.ofJson?) "parameters" fields
    returnType := ← optionalField? asString? "return_type_hint" fields
    isAsync := ← field? asBool? "is_async" fields
    isGenerator := ← field? asBool? "is_generator" fields
    isProperty := ← field? asBool? "is_property" fields
    isStaticOrClassMethod := ← field? asBool? "is_static_or_class_method" fields
    decorators := ← field? (asList? asString?) "decorators" fields
    docstring := ← optionalField? asString? "docstring" fields
    complexity := ← field? asHalfWord? "complexity" fields
    span := ← field? Span.ofJson? "span" fields }

/-! ## Classes -/

/-- The fields of an attribute. -/
def Attribute.fieldNames : List String :=
  ["name", "type_annotation", "default_value_text", "is_class_level", "is_private"]

/-- An attribute as a record. -/
def Attribute.toJson (fact : Attribute) : Json :=
  .object [
    ("name", .string fact.name),
    ("type_annotation", orNull .string fact.typeText),
    ("default_value_text", orNull .string fact.defaultText),
    ("is_class_level", .bool fact.isClassLevel),
    ("is_private", .bool fact.isPrivate)]

/-- The attribute that a record stands for. -/
def Attribute.ofJson? (json : Json) : Option Attribute := do
  let fields ← json.asRecord? fieldNames
  return {
    name := ← field? asString? "name" fields
    typeText := ← optionalField? asString? "type_annotation" fields
    defaultText := ← optionalField? asString? "default_value_text" fields
    isClassLevel := ← field? asBool? "is_class_level" fields
    isPrivate := ← field? asBool? "is_private" fields }

/-- The fields of a class. -/
def Class.fieldNames : List String :=
  ["name", "base_class_names", "methods", "attributes", "decorators", "docstring",
    "is_abstract", "is_dataclass", "detected_patterns", "span"]

/-- A class as a record. -/
def Class.toJson (cls : Class) : Json :=
  .object [
    ("name", .string cls.name),
    ("base_class_names", .strings cls.bases),
    ("methods", .array (cls.methods.map Function.toJson)),
    ("attributes", .array (cls.attributes.map Attribute.toJson)),
    ("decorators", .strings cls.decorators),
    ("docstring", orNull .string cls.docstring),
    ("is_abstract", .bool cls.isAbstract),
    ("is_dataclass", .bool cls.isDataclass),
    ("detected_patterns", .strings cls.patterns),
    ("span", cls.span.toJson)]

/-- The class that a record stands for. -/
def Class.ofJson? (json : Json) : Option Class := do
  let fields ← json.asRecord? fieldNames
  return {
    name := ← field? asString? "name" fields
    bases := ← field? (asList? asString?) "base_class_names" fields
    methods := ← field? (asList? Function.ofJson?) "methods" fields
    attributes := ← field? (asList? Attribute.ofJson?) "attributes" fields
    decorators := ← field? (asList? asString?) "decorators" fields
    docstring := ← optionalField? asString? "docstring" fields
    isAbstract := ← field? asBool? "is_abstract" fields
    isDataclass := ← field? asBool? "is_dataclass" fields
    patterns := ← field? (asList? asString?) "detected_patterns" fields
    span := ← field? Span.ofJson? "span" fields }

/-! ## Imports -/

/-- The fields of an imported name. -/
def ImportedName.fieldNames : List String := ["name", "alias"]

/-- An imported name as a record. -/
def ImportedName.toJson (item : ImportedName) : Json :=
  .object [("name", .string item.name), ("alias", orNull .string item.alias?)]

/-- The imported name that a record stands for. -/
def ImportedName.ofJson? (json : Json) : Option ImportedName := do
  let fields ← json.asRecord? fieldNames
  return {
    name := ← field? asString? "name" fields
    alias? := ← optionalField? asString? "alias" fields }

/-- The fields of an import. -/
def Import.fieldNames : List String :=
  ["module", "imported_items", "is_from_style", "relative_level", "line"]

/-- An import as a record. -/
def Import.toJson (fact : Import) : Json :=
  .object [
    ("module", .string fact.moduleName),
    ("imported_items", .array (fact.items.map ImportedName.toJson)),
    ("is_from_style", .bool fact.isFromStyle),
    ("relative_level", orNull .halfWord fact.relativeLevel),
    ("line", .halfWord fact.line)]

/-- The import that a record stands for. -/
def Import.ofJson? (json : Json) : Option Import := do
  let fields ← json.asRecord? fieldNames
  return {
    moduleName := ← field? asString? "module" fields
    items := ← field? (asList? ImportedName.ofJson?) "imported_items" fields
    isFromStyle := ← field? asBool? "is_from_style" fields
    relativeLevel := ← optionalField? asHalfWord? "relative_level" fields
    line := ← field? asHalfWord? "line" fields }

/-! ## Models -/

/-- The fields of a parse error. -/
def ParseError.fieldNames : List String := ["message", "span"]

/-- A parse error as a record. -/
def ParseError.toJson (error : ParseError) : Json :=
  .object [("message", .string error.message), ("span", error.span.toJson)]

/-- The parse error that a record stands for. -/
def ParseError.ofJson? (json : Json) : Option ParseError := do
  let fields ← json.asRecord? fieldNames
  return {
    message := ← field? asString? "message" fields
    span := ← field? Span.ofJson? "span" fields }

/-- The fields of a model. -/
def Model.fieldNames : List String :=
  ["file_path", "functions", "classes", "imports", "global_variables", "complexity",
    "line_count", "parse_errors", "framework_hints", "uses_type_hints", "docstring",
    "encoding", "truncated"]

/-- A model as a record. -/
def Model.toJson (model : Model) : Json :=
  .object [
    ("file_path", .string model.path),
    ("functions", .array (model.functions.map Function.toJson)),
    ("classes", .array (model.classes.map Class.toJson)),
    ("imports", .array (model.imports.map Import.toJson)),
    ("global_variables", .strings model.globals),
    ("complexity", .halfWord model.complexity),
    ("line_count", .word model.lineCount),
    ("parse_errors", .array (model.parseErrors.map ParseError.toJson)),
    ("framework_hints", .strings model.frameworks),
    ("uses_type_hints", .bool model.usesTypeHints),
    ("docstring", orNull .string model.docstring),
    ("encoding", orNull .string model.encoding),
    ("truncated", .bool model.truncated)]

/-- The model that a record stands for. The names of variables may come in any
order and repeatedly. -/
def Model.ofJson? (json : Json) : Option Model := do
  let fields ← json.asRecord? fieldNames
  let globals ← field? (asList? asString?) "global_variables" fields
  return {
    path := ← field? asString? "file_path" fields
    functions := ← field? (asList? Function.ofJson?) "functions" fields
    classes := ← field? (asList? Class.ofJson?) "classes" fields
    imports := ← field? (asList? Import.ofJson?) "imports" fields
    globals := globals.foldl (fun known name => insertName name known) []
    complexity := ← field? asHalfWord? "complexity" fields
    lineCount := ← field? asWord? "line_count" fields
    parseErrors := ← field? (asList? ParseError.ofJson?) "parse_errors" fields
    frameworks := ← field? (asList? asString?) "framework_hints" fields
    usesTypeHints := ← field? asBool? "uses_type_hints" fields
    docstring := ← optionalField? asString? "docstring" fields
    encoding := ← optionalField? asString? "encoding" fields
    truncated := ← field? asBool? "truncated" fields }

end SourceFacts.Facts
