import SourceFacts.Cache.Key
import SourceFacts.Failures.Record

namespace SourceFacts.Cache

/-!
# Cache entries

An entry keeps the payload of an enrichment for a time. It is stored as a JSON
document.
-/

open Failures Hash Json Text Time

/-- Where a payload came from. -/
structure SourceMetadata where
  path : String := ""
  sizeBytes : UInt64 := 0
  lineCount : UInt64 := 0
  language : String := ""
deriving Repr, DecidableEq, Inhabited

/-- A stored payload. -/
structure Entry where
  key : Key
  payload : Json
  createdAt : Instant
  ttlSeconds : UInt64
  schemaVersion : String
  source : SourceMetadata
deriving Repr

/-! ## Expiry -/

/-- The longest duration in seconds. -/
def maxDuration : Nat := 9223372036854775

/-- The last moment at which something made at a moment is fresh. -/
def expiry (created : Instant) (ttl : UInt64) : Instant :=
  (created.addSeconds? (min ttl.toNat maxDuration)).getD Instant.last

namespace Entry

/-- The last moment at which an entry is fresh. -/
def expiresAt (entry : Entry) : Instant := expiry entry.createdAt entry.ttlSeconds

/-- Whether an entry is no longer fresh. -/
def isExpiredAt (entry : Entry) (now : Instant) : Bool := entry.expiresAt.before now

end Entry

/-! ## Entries as JSON -/

namespace SourceMetadata

/-- The fields of what is known about a source. -/
def fieldNames : List String := ["path", "size_bytes", "line_count", "language"]

/-- What is known about a source, field by field. -/
def toFields (source : SourceMetadata) : List (String × Json) := [
  ("path", .string source.path),
  ("size_bytes", .word source.sizeBytes),
  ("line_count", .word source.lineCount),
  ("language", .string source.language)]

/-- What is known about a source as a record. -/
def toJson (source : SourceMetadata) : Json := .object source.toFields

/-- What a record tells about a source. -/
def ofJson? (json : Json) : Option SourceMetadata := do
  let fields ← json.asRecord? fieldNames
  return {
    path := ← field? asString? "path" fields
    sizeBytes := ← field? asWord? "size_bytes" fields
    lineCount := ← field? asWord? "line_count" fields
    language := ← field? asString? "language" fields }

end SourceMetadata

namespace Entry

/-- The fields of an entry. -/
def fieldNames : List String :=
  ["key", "payload", "created_at", "ttl_seconds", "schema_version", "source_metadata"]

/-- An entry field by field. -/
def toFields (entry : Entry) : List (String × Json) := [
  ("key", entry.key.toJson),
  ("payload", entry.payload),
  ("created_at", instantJson entry.createdAt),
  ("ttl_seconds", .word entry.ttlSeconds),
  ("schema_version", .string entry.schemaVersion),
  ("source_metadata", entry.source.toJson)]

/-- An entry as a record. -/
def toJson (entry : Entry) : Json := .object entry.toFields

/-- The entry that a record stands for. -/
def ofJson? (json : Json) : Option Entry := do
  let fields ← json.asRecord? fieldNames
  return {
    key := ← field? Fingerprint.ofJson? "key" fields
    payload := ← field? (fun json => some json.canonical) "payload" fields
    createdAt := ← field? asInstant? "created_at" fields
    ttlSeconds := ← field? asWord? "ttl_seconds" fields
    schemaVersion := ← field? asString? "schema_version" fields
    source := ← field? SourceMetadata.ofJson? "source_metadata" fields }

end Entry

end SourceFacts.Cache
