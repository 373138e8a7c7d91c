import SourceFacts.Config.Settings
import SourceFacts.Disk.OsError

namespace SourceFacts.Config

/-!
# Why settings cannot be loaded
-/

open Disk

/-- The version of the form in which settings are stored. -/
def currentVersion : Nat := 1

/-- Why settings cannot be loaded or used. -/
inductive Failure where
  | outOfRange (error : OutOfRange)
  | missingVersion
  | unsupportedVersion (version : Nat)
  | unknownPreset (name : String)
  | io (error : OsError)
  /-- The file is not in UTF-8. -/
  | notText
  /-- The text is no document of the right form. -/
  | malformed
deriving Repr, DecidableEq, Inhabited

/-- What is wrong with a file that is not in UTF-8. -/
def notText : String := "stream did not contain valid UTF-8"

namespace Failure

/-- A failure in words; those of a malformed document are left to its reader. -/
def message : Failure → String
  | .outOfRange error => error.message
  | .missingVersion => "config file has no 'version' key (expected \x60version: 1\x60 at the top)"
  | .unsupportedVersion version =>
      "config version " ++ toString version ++ " is not supported (known: [" ++
        toString currentVersion ++ "])"
  | .unknownPreset name =>
      "unknown preset '" ++ name ++ "' (" ++ Text.join ", " (Preset.all.map Preset.name) ++ ")"
  | .io error => "reading config: " ++ error.message
  | .notText => "reading config: " ++ Config.notText
  | .malformed => "invalid YAML"

/-- The name of a kind of failure. -/
def kind : Failure → String
  | .outOfRange _ => "OutOfRange"
  | .missingVersion => "MissingVersion"
  | .unsupportedVersion _ => "UnsupportedVersion"
  | .unknownPreset _ => "UnknownPreset"
  | .io _ | .notText => "Io"
  | .malformed => "Yaml"

end Failure

/-- The settings themselves, if each of them is in its range. -/
def Settings.validate (settings : Settings) : Except Failure Settings :=
  match settings.outOfRange? with
  | none => .ok settings
  | some error => .error (.outOfRange error)

/-- The preset of a name. -/
def Preset.find (name : String) : Except Failure Preset :=
  match Preset.ofText? name with
  | some preset => .ok preset
  | none => .error (.unknownPreset name)

end SourceFacts.Config
