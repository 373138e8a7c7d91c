import SourceFacts.Facts.Model
import SourceFacts.Hash.Fingerprint

namespace SourceFacts.Cache

/-!
# Cache keys

A key stands for everything that the enrichment of a file depends on: its
content, up to line endings and the mark before it, the enrichment's
configuration, a summary of the structure that was found, the version of the
stored form and, if that is wanted, the path.
-/

open Text Facts Hash

/-! ## Contents -/

/-- Bytes with every line ending of two bytes made a line feed. -/
def foldReturns : Bytes → Bytes
  | [] => []
  | 0x0D :: 0x0A :: rest => 0x0A :: foldReturns rest
  | byte :: rest => byte :: foldReturns rest

/-- A content without the mark before it and with line feeds as line endings. -/
def normalize (content : Bytes) : Bytes := foldReturns (dropMark content)

/-! ## Signatures -/

/-- Raised whenever other facts are found in the same file. -/
def extractorVersion : Nat := 1

/-- A class in a signature: its name and those of its methods. -/
def classSignature (cls : Facts.Class) : String :=
  cls.name ++ "(" ++ join "," (cls.methods.map (·.name)) ++ ")"

/-- The structure of a file in short: how much there is of everything, and names. -/
def signature (model : Model) : String :=
  "v" ++ toString extractorVersion ++ ";f" ++ toString model.functions.length ++
    ";c" ++ toString model.classes.length ++ ";i" ++ toString model.imports.length ++
    ";g" ++ toString model.globals.length ++
    ";fn:" ++ join "," (model.functions.map (·.name)) ++
    ";cls:" ++ join "," (model.classes.map classSignature) ++
    ";imp:" ++ join "," (model.imports.map (·.moduleName))

/-! ## Keys -/

/-- What a key stands for. -/
structure KeyInputs where
  content : Bytes
  configId : String
  signature : String
  schemaVersion : String
  path? : Option String := none
deriving Repr, DecidableEq, Inhabited

/-- What the keys of this program begin with before they are hashed. -/
def keyDomain : Bytes := encode "codegraph-analysis/cache-key"

/-- A length as eight bytes, the lowest first. -/
def lengthBytes (length : Nat) : Bytes :=
  (List.range 8).map fun index => UInt8.ofNat (length / Nat.pow 256 index)

/-- A field: its length, then its bytes. -/
def fieldBytes (bytes : Bytes) : Bytes := lengthBytes bytes.length ++ bytes

/-- The bytes whose hash is the key. -/
def KeyInputs.preimage (inputs : KeyInputs) : Bytes :=
  keyDomain ++ fieldBytes (normalize inputs.content) ++ fieldBytes (encode inputs.configId) ++
    fieldBytes (encode inputs.signature) ++ fieldBytes (encode inputs.schemaVersion) ++
    match inputs.path? with
    | none => [0]
    | some path => 1 :: fieldBytes (encode path)

/-- A key. -/
abbrev Key := Fingerprint

/-- The key that stands for some inputs. -/
def KeyInputs.key (inputs : KeyInputs) : Key := Fingerprint.ofContent inputs.preimage

/-- The first digits of a key. -/
def shardOf (digits : Nat) (key : Key) : String := String.ofList (key.toHex.toList.take digits)

end SourceFacts.Cache
