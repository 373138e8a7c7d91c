import SourceFacts.Disk.OsError

namespace SourceFacts.Analysis

/-!
# Why a file cannot be analysed
-/

open Disk

/-- Why bytes are no text. -/
inductive EncodingFault where
  /-- There is a zero byte near the beginning. -/
  | binary (offset : Nat)
  /-- The bytes are not the UTF-8 form of a text. -/
  | invalid (offset : Nat)
deriving Repr, DecidableEq, Inhabited

/-- Why a file cannot be analysed. -/
inductive Failure where
  | fileAccess (error : OsError)
  | resourceLimit (size limit : Nat)
  | encoding (fault : EncodingFault)
  | timeout (milliseconds : Nat)
  /-- No statement of the file is complete. -/
  | syntaxError (line : UInt32)
deriving Repr, DecidableEq, Inhabited

/-- What is wrong with bytes, in words. -/
def EncodingFault.message : EncodingFault → String
  | .binary offset => "binary content (NUL byte at offset " ++ toString offset ++ ")"
  | .invalid offset =>
      "content is not valid UTF-8 (invalid byte at offset " ++ toString offset ++ ")"

/-- What is wrong with a file, in words. -/
def Failure.message : Failure → String
  | .fileAccess error => "File access error: " ++ error.message
  | .resourceLimit size limit =>
      "File size " ++ toString size ++ " bytes exceeds limit of " ++ toString limit ++ " bytes"
  | .encoding fault => "Encoding error: " ++ fault.message
  | .timeout milliseconds => "Parse timed out after " ++ toString milliseconds ++ " ms"
  | .syntaxError line =>
      "Syntax error at line " ++ toString line.toNat ++ ": no complete statement could be parsed"

/-- The name of a kind of failure. -/
def Failure.kind : Failure → String
  | .fileAccess _ => "FileAccess"
  | .resourceLimit .. => "ResourceLimit"
  | .encoding _ => "Encoding"
  | .timeout _ => "Timeout"
  | .syntaxError _ => "Syntax"

end SourceFacts.Analysis
