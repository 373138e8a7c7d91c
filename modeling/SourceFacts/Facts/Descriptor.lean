import SourceFacts.Failures.Record
import SourceFacts.Hash.Fingerprint

namespace SourceFacts.Facts

/-!
# Descriptors of files

What is known about a file before it is analysed.
-/

open Failures Hash Json Time

/-- The language of a file. -/
inductive SourceLanguage where
  | python
deriving Repr, DecidableEq, Inhabited

namespace SourceLanguage

/-- The name of a language. -/
def name : SourceLanguage → String
  | .python => "python"

/-- The language of the files with an extension. -/
def ofExtension? (extension : String) : Option SourceLanguage :=
  if extension = "py" || extension = "pyi" then some .python else none

/-- The language of a name. -/
def ofName? (name : String) : Option SourceLanguage :=
  if name = SourceLanguage.python.name then some .python else none

end SourceLanguage

/-- What is known about a file. -/
structure Descriptor where
  path : String
  sizeBytes : UInt64
  fingerprint? : Option Fingerprint := none
  language : SourceLanguage := .python
  modified? : Option Instant := none
deriving Repr, DecidableEq

namespace Descriptor

/-- The fields of a descriptor. -/
def fieldNames : List String :=
  ["path", "size_bytes", "content_fingerprint", "language_tag", "modified_at"]

/-- A descriptor as JSON. -/
def toJson (descriptor : Descriptor) : Json :=
  .object [
    ("path", .string descriptor.path),
    ("size_bytes", .word descriptor.sizeBytes),
    ("content_fingerprint", orNull Fingerprint.toJson descriptor.fingerprint?),
    ("language_tag", .string descriptor.language.name),
    ("modified_at", orNull instantJson descriptor.modified?)]

/-- The descriptor that a record stands for. -/
def ofJson? (json : Json) : Option Descriptor := do
  let fields ← json.asRecord? fieldNames
  return {
    path := ← field? asString? "path" fields
    sizeBytes := ← field? asWord? "size_bytes" fields
    fingerprint? := ← optionalField? Fingerprint.ofJson? "content_fingerprint" fields
    language := ← field? (fun json => json.asCase?.bind SourceLanguage.ofName?) "language_tag"
      fields
    modified? := ← optionalField? asInstant? "modified_at" fields }

end Descriptor

end SourceFacts.Facts
