import Mathlib.Data.List.Forall2
import SourceFacts.Analysis.Outcome
import SourceFacts.Proofs.Json.Legible
import SourceFacts.Proofs.Json.RoundTrip
import SourceFacts.Proofs.Run.Records
import SourceFacts.Run.Services

namespace SourceFacts.Facts

/-!
# Reports as lines

What is written for a report can be read from its line.
-/

/-!
## Facts are legible

What is written for facts has no numbers but integers, and it is nested in a bounded number of
levels, however many facts there are.
-/

open Json

/-- A span is a record. -/
theorem Span.legible (span : Span) : Legible 1 span.toJson :=
  legible_object (by simp)

/-- A parameter is a record. -/
theorem Parameter.legible (parameter : Parameter) : Legible 1 parameter.toJson :=
  legible_object (by simp)

/-- A function is a record with a list of records. -/
theorem Function.legible (function : Function) : Legible 3 function.toJson := by
  have parameters := legible_map Parameter.legible function.parameters
  have span := function.span.legible.mono (show 1 ≤ 2 by decide)
  exact legible_object (by simp [parameters, span])

/-- An attribute is a record. -/
theorem Attribute.legible (fact : Attribute) : Legible 1 fact.toJson :=
  legible_object (by simp)

/-- A class is a record with a list of functions. -/
theorem Class.legible (cls : Class) : Legible 5 cls.toJson := by
  have methods := legible_map Function.legible cls.methods
  have attributes := (legible_map Attribute.legible cls.attributes).mono (show 2 ≤ 4 by decide)
  have span := cls.span.legible.mono (show 1 ≤ 4 by decide)
  exact legible_object (by simp [methods, attributes, span])

/-- An imported name is a record. -/
theorem ImportedName.legible (item : ImportedName) : Legible 1 item.toJson :=
  legible_object (by simp)

/-- An import is a record with a list of records. -/
theorem Import.legible (fact : Import) : Legible 3 fact.toJson := by
  have items := legible_map ImportedName.legible fact.items
  exact legible_object (by simp [items])

/-- A parse error is a record with a span. -/
theorem ParseError.legible (error : ParseError) : Legible 2 error.toJson :=
  legible_object (by simp [error.span.legible])

/-- A model is a record with a list of classes. -/
theorem Model.legible (model : Model) : Legible 7 model.toJson := by
  have functions := (legible_map Function.legible model.functions).mono (show 4 ≤ 6 by decide)
  have classes := legible_map Class.legible model.classes
  have imports := (legible_map Import.legible model.imports).mono (show 4 ≤ 6 by decide)
  have errors := (legible_map ParseError.legible model.parseErrors).mono (show 3 ≤ 6 by decide)
  exact legible_object (by simp [functions, classes, imports, errors])

end SourceFacts.Facts

namespace SourceFacts.Analysis

open Json

/-- An outcome is a record with a model, if there is one. -/
theorem Outcome.legible (outcome : Outcome) : Legible 8 outcome.toJson := by
  cases outcome with
  | success model =>
      exact legible_object (by simp [model.legible])
  | incomplete model reasons =>
      exact legible_object (by simp [model.legible])
  | failed category reason =>
      exact legible_object (by simp [Failures.Category.toJson])

end SourceFacts.Analysis

namespace SourceFacts.Run

/-!
## Reports are framed by lines

Reports are delivered as lines, whatever the texts in them are: each is on a line of its own, from
which it is read back, and the statistics are on the last one.
-/

open Analysis Facts Failures Json Text

/-! ### What lines hold -/

/-- The value that stands on a line of bytes. -/
def lineValue? (line : Bytes) : Option Json := (decode? line).bind parse?

/-- A line holds the report on a file with the size of the file, each of its fields once, and
nothing else. The report is read back from it. -/
structure IsReportLine (file : Descriptor) (report : Report) (line : Bytes) : Prop where
  parsed : lineValue? line = some (.object
    (("type", .string "file") :: ("size_bytes", .word file.sizeBytes) :: report.toFields))
  distinct : ("type" :: "size_bytes" :: report.toFields.map (·.1)).Nodup
  readBack : ∀ json, lineValue? line = some json →
    ∀ arrangement : Arrangement, Report.ofJson? (arrangement.of json) = some report

/-- A line holds statistics, each of their fields once, and nothing else. They are read back from
it. -/
structure IsSummaryLine (statistics : Statistics) (line : Bytes) : Prop where
  parsed : lineValue? line =
    some (.object (("type", .string "summary") :: statistics.toFields))
  distinct : ("type" :: statistics.toFields.map (·.1)).Nodup
  readBack : statistics.IsValid → ∀ json, lineValue? line = some json →
    ∀ arrangement : Arrangement, Statistics.ofJson? (arrangement.of json) = some statistics

/-- A report that can be read back: its payload, if there is one, is not nested too deeply, and
its numbers are read back from their texts. -/
structure Report.IsDeliverable (report : Report) : Prop where
  valid : report.IsValid
  payload : ∀ payload ∈ report.enrichment.payload?, Legible 100 payload

namespace Lines

/-! ### Values on lines -/

/-- What is written compactly is read from its bytes, if it is legible. -/
theorem lineValue?_encode_compact
    {json : Json}
    (legible : Legible maxOpen json) :
    lineValue? (encode json.compact) = some json := by
  rw [lineValue?, decode?_encode, Option.bind_some, parse?_compact, if_pos legible.shallow]
  exact (reread?_eq_self_iff json).mpr legible.readsBack

/-- An enrichment is a record with its payload, if there is one. -/
theorem legible_enrichment
    {enrichment : Enrichment}
    (payload : ∀ payload ∈ enrichment.payload?, Legible 100 payload) :
    Legible 101 enrichment.toJson := by
  cases enrichment with
  | cached json =>
      exact legible_object (by simp [payload json rfl])
  | fresh json =>
      exact legible_object (by simp [payload json rfl])
  | failed message =>
      exact legible_object (by simp)
  | skipped =>
      exact legible_object (by simp)
  | disabled =>
      exact legible_object (by simp)

/-- The report on a file is legible. -/
theorem legible_ofReport
    {report : Report}
    (deliverable : report.IsDeliverable)
    (file : Descriptor) :
    Legible maxOpen (ofReport file report) := by
  have outcome := report.outcome.legible.mono (show 8 ≤ 101 by decide)
  have enrichment := legible_enrichment deliverable.payload
  have key : ∀ field ∈ present "cache_key" Hash.Fingerprint.toJson report.key?,
      Legible 101 field.2 := by
    cases report.key? <;> simp [present, Hash.Fingerprint.toJson]
  have fields : ∀ field ∈ ("type", Json.string "file") ::
      ("size_bytes", Json.word file.sizeBytes) :: report.toFields, Legible 101 field.2 := by
    simp only [Report.toFields, List.forall_mem_cons, List.forall_mem_append]
    exact ⟨legible_string _, legible_word _, ⟨⟨legible_string _, outcome, by simp⟩, key⟩,
      enrichment, by simp⟩
  exact (legible_object fields).mono (by decide)

/-- Statistics are legible if their rate is. -/
theorem legible_ofStatistics
    {statistics : Statistics}
    (rate : (Json.double statistics.successRate).ReadsBack) :
    Legible maxOpen (ofStatistics statistics) := by
  have isRate : Legible 1 (.double statistics.successRate) := ⟨Nat.zero_le 1, rate⟩
  have counts : Legible 1 (.object (Statistics.countFields statistics.byCategory)) := by
    refine legible_object ?_
    intro field member
    obtain ⟨entry, _, rfl⟩ := List.mem_map.mp member
    exact legible_natural entry.2
  have fields : ∀ field ∈ ("type", Json.string "summary") :: statistics.toFields,
      Legible 1 field.2 := by
    simp only [Statistics.countFields] at counts
    simp [Statistics.toFields, isRate, counts]
  exact (legible_object fields).mono (by decide)

/-- The report on a file is a line that holds it. -/
theorem isReportLine
    {report : Report}
    (deliverable : report.IsDeliverable)
    (file : Descriptor) :
    IsReportLine file report (encode (ofReport file report).compact) := by
  have parsed := lineValue?_encode_compact (legible_ofReport deliverable file)
  refine ⟨parsed, ?_, ?_⟩
  · cases isKey : report.key? <;> simp [Report.toFields, present, isKey]
  · intro json isJson arrangement
    rw [parsed, Option.some.injEq] at isJson
    exact Report.ofJson?_among deliverable.valid
      [("type", .string "file"), ("size_bytes", .word file.sizeBytes)] isJson.symm
      (by simp) (by simp [Report.fieldNames])

/-- Statistics are a line that holds them. -/
theorem isSummaryLine
    {statistics : Statistics}
    (rate : (Json.double statistics.successRate).ReadsBack) :
    IsSummaryLine statistics (encode (ofStatistics statistics).compact) := by
  have parsed := lineValue?_encode_compact (legible_ofStatistics rate)
  refine ⟨parsed, by simp [Statistics.toFields], ?_⟩
  intro valid json isJson arrangement
  rw [parsed, Option.some.injEq] at isJson
  exact Statistics.ofJson?_among valid [("type", .string "summary")] isJson.symm
    (by simp) (by simp [Statistics.fieldNames])

/-! ### Lines one after the other -/

/-- The lines after reports were published, one after the other. -/
def publishAll (lines : Lines) : List (Descriptor × Report) → Lines
  | [] => lines
  | (file, report) :: rest => publishAll (publisher.publish file report lines).2 rest

/-- The lines after reports and statistics, with nothing before them. -/
def written (reports : List (Descriptor × Report)) (statistics : Statistics) : Lines :=
  (publisher.finish statistics (publishAll {} reports)).2

/-- A value is added on a line of its own, which ends with a line feed. -/
theorem encode_text_add
    (lines : Lines)
    (json : Json) :
    encode (lines.add json).text = encode lines.text ++ encode json.compact ++ [0x0A] := by
  rw [add, encode_append, encode_append]
  rfl

/-- Published reports are counted, and each is added on a line of its own. -/
theorem publishAll_eq
    (lines : Lines)
    (reports : List (Descriptor × Report)) :
    (lines.publishAll reports).published = lines.published + reports.length ∧
      encode (lines.publishAll reports).text = encode lines.text ++
        reports.flatMap fun (file, report) => encode (ofReport file report).compact ++ [0x0A] := by
  induction reports generalizing lines with
  | nil =>
      exact ⟨rfl, (List.append_nil _).symm⟩
  | cons entry rest inductionHypothesis =>
      obtain ⟨file, report⟩ := entry
      obtain ⟨published, text⟩ := inductionHypothesis (publisher.publish file report lines).2
      rw [publishAll, published, text]
      refine ⟨by simp [publisher]; omega, ?_⟩
      have added : encode (publisher.publish file report lines).2.text =
          encode lines.text ++ encode (ofReport file report).compact ++ [0x0A] :=
        encode_text_add lines _
      rw [added, List.flatMap_cons]
      simp

/-- Lines that end with line feeds are split at these. -/
theorem splitOn_flatMap
    {lines : List Bytes}
    (areLines : ∀ line ∈ lines, 0x0A ∉ line)
    (rest : Bytes) :
    (lines.flatMap (· ++ [0x0A]) ++ rest).splitOn 0x0A = lines ++ rest.splitOn 0x0A := by
  induction lines with
  | nil =>
      rfl
  | cons line others inductionHypothesis =>
      rw [List.forall_mem_cons] at areLines
      rw [List.flatMap_cons, List.append_assoc, List.append_assoc, List.singleton_append,
        List.splitOn_append_cons_self_of_not_mem areLines.1, inductionHypothesis areLines.2]
      rfl

/-- What was written are lines: one for each report, in their order, then one for the statistics,
and nothing after its line feed. All reports were counted. -/
structure Frames (reports : List (Descriptor × Report)) (statistics : Statistics) (lines : Lines) :
    Prop where
  framed : ∃ bodies last, (encode lines.text).splitOn 0x0A = bodies ++ [last, []] ∧
    List.Forall₂ (fun entry body => IsReportLine entry.1 entry.2 body) reports bodies ∧
    IsSummaryLine statistics last
  published : lines.published = reports.length

/-- Whatever reports are published, with whatever texts in them, what is written are lines that
frame them. -/
theorem written_frames
    {reports : List (Descriptor × Report)}
    (deliverable : ∀ entry ∈ reports, entry.2.IsDeliverable)
    {statistics : Statistics}
    (rate : (Json.double statistics.successRate).ReadsBack) :
    (written reports statistics).Frames reports statistics := by
  obtain ⟨published, text⟩ := publishAll_eq {} reports
  let bodies := reports.map fun entry => encode (ofReport entry.1 entry.2).compact
  let last := encode (ofStatistics statistics).compact
  have areLines : ∀ line ∈ bodies ++ [last], 0x0A ∉ line := by
    intro line member
    rcases List.mem_append.mp member with isBody | isLast
    · obtain ⟨entry, _, rfl⟩ := List.mem_map.mp isBody
      exact lineFeed_not_mem_encode_compact _
    · rw [List.mem_singleton.mp isLast]
      exact lineFeed_not_mem_encode_compact _
  have allText : encode (written reports statistics).text =
      (bodies ++ [last]).flatMap (· ++ [0x0A]) ++ [] := by
    have added : encode (written reports statistics).text =
        encode (publishAll {} reports).text ++ last ++ [0x0A] := encode_text_add _ _
    rw [added, text, List.flatMap_append, List.flatMap_map]
    simp [encode]
  refine ⟨⟨bodies, last, ?_, ?_, isSummaryLine rate⟩, ?_⟩
  · rw [allText, splitOn_flatMap areLines, List.splitOn_nil, List.append_assoc]
    rfl
  · rw [List.forall₂_map_right_iff, List.forall₂_same]
    exact fun entry member => isReportLine (deliverable entry member) entry.1
  · exact published.trans (Nat.zero_add _)

/-- Line feeds and quotes in paths, docstrings, messages and payloads do not break lines. -/
theorem written_frames_unusualTexts :
    let reports : List (Descriptor × Report) := [
      ({ path := "a\n\"b\".py", sizeBytes := 7 }, {
        path := "a\n\"b\".py"
        outcome := .failed .syntaxError "line 1:\n\tunexpected \x01"
        enrichment := .skipped }),
      ({ path := "\u00E9.py", sizeBytes := 20 }, {
        path := "\u00E9.py"
        outcome := .success { path := "\u00E9.py", docstring := some "First.\r\nSecond." }
        enrichment := .fresh (.object [
          ("\n", .array [.string "\u2028", .null]), ("summary", .string "First.\n")]) })]
    let statistics : Statistics := {
      total := 2
      successful := 1
      failed := 1
      successRate := { magnitude := 4602678819172646912 }
      byCategory := [(.syntaxError, 1)] }
    (written reports statistics).Frames reports statistics := by
  refine written_frames ?_ ((reread?_eq_self_iff _).mp rfl)
  simp only [List.forall_mem_cons]
  refine ⟨⟨⟨?_, ?_⟩, ?_⟩, ⟨⟨?_, ?_⟩, ?_⟩, by simp⟩
  · rintro model ⟨⟩
  · rintro payload ⟨⟩
  · rintro payload ⟨⟩
  · rintro model ⟨rfl⟩
    exact .nil
  · rintro payload ⟨rfl⟩
    rfl
  · rintro payload ⟨rfl⟩
    exact ⟨by decide, by simp [ReadsBack, ReadsBackFields, ReadsBackItems]⟩

end Lines

end SourceFacts.Run
