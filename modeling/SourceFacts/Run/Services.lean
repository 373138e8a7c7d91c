import SourceFacts.Analysis.Analyzer
import SourceFacts.Cache.Entry
import SourceFacts.Facts.Descriptor
import SourceFacts.Facts.Model
import SourceFacts.Json.Printer
import SourceFacts.Run.Failure
import SourceFacts.Run.Report
import SourceFacts.Text.Pieces

namespace SourceFacts.Run

/-!
# Services of a run

What a run relies on, and the publisher and the enrichment that need nothing from outside.
-/

open Analysis Facts Failures Time

/-!
## What a run relies on

A run reads files, looks at the clock, keeps and finds enrichments, asks for new ones
and delivers reports. All of this happens to a state, of which a run knows nothing
else.
-/

/-- Something that happens to a state and has a result. -/
abbrev Effect (σ α : Type) := σ → α × σ

/-- What an enrichment is made from. -/
structure Request where
  file : Descriptor
  model : Model
  /-- The beginning of the source. -/
  excerpt : String
deriving Repr

/-- What makes enrichments. -/
structure Enricher (ε : Type) where
  /-- The name of its configuration. -/
  configId : String
  enrich : Request → Effect ε (Except EnrichmentFailure Json)

/-- What reports are delivered to. -/
structure Publisher (π : Type) where
  publish : Descriptor → Report → Effect π (Except DeliveryFailure Unit)
  /-- Takes the statistics after the last report. -/
  finish : Statistics → Effect π (Except DeliveryFailure Unit)

/-- What a run relies on. -/
structure Services (σ : Type) where
  now : Effect σ Instant
  read : Descriptor → Effect σ (Except Analysis.Failure SourceText)
  /-- Finds a fresh enrichment. -/
  get : Cache.Key → Effect σ (Except Cache.Failure (Option Json))
  /-- Keeps an enrichment for a number of seconds. -/
  put : Cache.Key → Json → UInt64 → Cache.SourceMetadata → Effect σ (Except Cache.Failure Unit)
  enrich : Request → Effect σ (Except EnrichmentFailure Json)
  publish : Descriptor → Report → Effect σ (Except DeliveryFailure Unit)
  finish : Statistics → Effect σ (Except DeliveryFailure Unit)
  /-- Writes a report on failures to a path. -/
  save : String → Json → Effect σ (Except Disk.OsError Unit)

/-!
## Reports as lines

Every report is a line with a JSON object; the statistics are the last one.
-/

/-- Lines that were written. -/
structure Lines where
  /-- The text of all lines, each with its line feed. -/
  text : String := ""
  /-- The number of reports among them. -/
  published : Nat := 0
deriving Repr, DecidableEq, Inhabited

namespace Lines

/-- The report on a file as an object. -/
def ofReport (file : Descriptor) (report : Report) : Json :=
  .object (("type", .string "file") :: ("size_bytes", .word file.sizeBytes) :: report.toFields)

/-- Statistics as an object. -/
def ofStatistics (statistics : Statistics) : Json :=
  .object (("type", .string "summary") :: statistics.toFields)

/-- Adds a line. -/
def add (lines : Lines) (json : Json) : Lines :=
  { lines with text := lines.text ++ json.compact ++ "\n" }

/-- Writes reports as lines. -/
def publisher : Publisher Lines where
  publish file report lines :=
    (.ok (), { lines.add (ofReport file report) with published := lines.published + 1 })
  finish statistics lines := (.ok (), lines.add (ofStatistics statistics))

end Lines

/-!
## Summaries

An enrichment that needs nothing but the model: names, numbers and the first lines
of docstrings.
-/

namespace Summary

/-- The first line of a docstring, if it has one. -/
def firstLine (docstring : Option String) : Json :=
  Json.orNull .string (docstring.bind fun text => (Text.lines text).head?)

/-- A function in short. -/
def ofFunction (function : Function) : Json :=
  .object [
    ("complexity", .halfWord function.complexity),
    ("is_async", .bool function.isAsync),
    ("name", .string function.name),
    ("parameters", .strings function.parameterNames),
    ("summary", firstLine function.docstring)]

/-- A class in short. -/
def ofClass (cls : Facts.Class) : Json :=
  .object [
    ("bases", .strings cls.bases),
    ("methods", .strings (cls.methods.map (·.name))),
    ("name", .string cls.name),
    ("patterns", .strings cls.patterns),
    ("summary", firstLine cls.docstring)]

/-- What a request asks about in short, under the name of what made the summary. -/
def ofRequest (generator : String) (request : Request) : Json :=
  let model := request.model
  .object [
    ("classes", .array (model.classes.map ofClass)),
    ("complexity", .halfWord model.complexity),
    ("excerpt_bytes", .natural request.excerpt.utf8ByteSize),
    ("frameworks", .strings model.frameworks),
    ("functions", .array (model.functions.map ofFunction)),
    ("generator", .string generator),
    ("imports", .strings (model.imports.map (·.moduleName))),
    ("line_count", .word model.lineCount),
    ("summary", firstLine model.docstring)]

/-- Makes summaries, and counts them. -/
def enricher (configId : String) : Enricher Nat where
  configId
  enrich request made := (.ok (ofRequest configId request), made + 1)

end Summary

end SourceFacts.Run
