import SourceFacts.Hash.Blake3
import SourceFacts.Json.Fields

namespace SourceFacts.Hash

/-!
# Fingerprints

A fingerprint stands for a content. It is written with two hexadecimal digits
for every byte.
-/

open Text

/-- The bytes of a fingerprint. -/
def fingerprintLength : Nat := 32

/-- A fingerprint of 32 bytes. -/
structure Fingerprint where
  bytes : Bytes
  length_eq : bytes.length = fingerprintLength
deriving DecidableEq, Repr

theorem blake3_length (bytes : Bytes) : (blake3 bytes).length = fingerprintLength := by
  simp [blake3, bytesOfWord, fingerprintLength, List.range, List.range.loop]

namespace Fingerprint

/-- The fingerprint of a content. -/
def ofContent (content : Bytes) : Fingerprint := ⟨blake3 content, blake3_length content⟩

/-- The fingerprint with given bytes, if there are 32 of them. -/
def ofBytes? (bytes : Bytes) : Option Fingerprint :=
  if length_eq : bytes.length = fingerprintLength then some ⟨bytes, length_eq⟩ else none

/-- A fingerprint in lower-case digits. -/
def toHex (fingerprint : Fingerprint) : String := Text.toHex fingerprint.bytes

/-- The fingerprint that digits of either case stand for. -/
def ofHex? (text : String) : Option Fingerprint := (Text.ofHex? text).bind ofBytes?

/-- A fingerprint as JSON. -/
def toJson (fingerprint : Fingerprint) : Json := .string fingerprint.toHex

/-- The fingerprint that JSON stands for. -/
def ofJson? (json : Json) : Option Fingerprint := json.asString?.bind ofHex?

end Fingerprint

end SourceFacts.Hash
