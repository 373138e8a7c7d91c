import SourceFacts.CommandLine.Matching
import SourceFacts.Config.Settings

namespace SourceFacts.CommandLine

/-!
# The commands of this program

Sources are analysed, the cache is looked at or cleaned, or a preset is shown.
-/

/-! ## Commands and their switches -/

/-- The name of the program. -/
def programName : String := "codegraph-analyze"

/-- The version of the program. -/
def programVersion : String := "0.1.0"

/-- The switch for more messages, which every command has. It changes nothing else. -/
def verboseSwitch : Switch where
  name := "verbose"
  letter? := some 'v'
  about := "Enable debug logging"

/-- The command that analyses sources. -/
def analyzeCommand : Command where
  name := "analyze"
  about := "Analyze every Python file under a directory"
  argument? := some { name := "ROOT", about := "Project root to scan" }
  switches := [
    { name := "config"
      taken := .path "CONFIG"
      about := "YAML config file (version: 1)" },
    verboseSwitch,
    { name := "preset"
      taken := .text "PRESET"
      about := "Preset used when no config file is given" },
    { name := "output"
      letter? := some 'o'
      taken := .path "OUTPUT"
      about := "JSON Lines output (stdout when omitted)" },
    { name := "report"
      taken := .path "REPORT"
      about := "Error report destination" },
    { name := "fail-fast"
      about := "Stop at the first file that fails to read or parse" },
    { name := "no-cache"
      about := "Disable the cache gate (analysis only, no enrichment)" }]

/-- The switches of the commands that are about the cache. -/
def cacheSwitches : List Switch := [
  { name := "dir"
    taken := .path "DIR"
    about := "Cache directory (overrides the config file)" },
  verboseSwitch,
  { name := "config"
    taken := .path "CONFIG"
    about := "YAML config whose cache section (schema version, shard layout) applies" }]

/-- What can be done with the cache. -/
inductive CacheAction where
  | stats
  | purge
  | clear
deriving Repr, DecidableEq, Inhabited

namespace CacheAction

/-- All actions. -/
def all : List CacheAction := [.stats, .purge, .clear]

/-- The name of an action. -/
def name : CacheAction → String
  | .stats => "stats"
  | .purge => "purge"
  | .clear => "clear"

/-- What an action does. -/
def about : CacheAction → String
  | .stats => "Entry count and layout"
  | .purge => "Remove expired and undecodable entries"
  | .clear => "Remove every entry"

/-- The command for an action. -/
def command (action : CacheAction) : Command where
  name := action.name
  about := action.about
  switches := cacheSwitches

end CacheAction

/-- The command that is about the cache. -/
def cacheCommand : Command where
  name := "cache"
  about := "Inspect or maintain the cache directory"
  switches := [verboseSwitch]
  commands := CacheAction.all.map CacheAction.command

/-- The preset that is shown if none is named. -/
def defaultPreset : String := Config.Preset.balanced.name

/-- The command that shows a preset. -/
def configCommand : Command where
  name := "config"
  about := "Print a preset as YAML"
  switches := [
    { name := "preset"
      taken := .text "PRESET"
      about := "[default: " ++ defaultPreset ++ "]" },
    verboseSwitch]

/-- The program as a command. -/
def program : Command where
  name := programName
  about := "Analyze Python sources and gate enrichment behind a content-addressed cache"
  switches := [verboseSwitch]
  commands := [analyzeCommand, cacheCommand, configCommand]

/-! ## Invocations -/

/-- How sources are to be analysed. -/
structure AnalyzeArguments where
  root : String
  config? : Option String := none
  preset? : Option String := none
  output? : Option String := none
  report? : Option String := none
  failFast : Bool := false
  noCache : Bool := false
deriving Repr, DecidableEq, Inhabited

/-- Which cache is meant. -/
structure CacheArguments where
  dir? : Option String := none
  config? : Option String := none
deriving Repr, DecidableEq, Inhabited

/-- What the program is to do. -/
inductive Invocation where
  | analyze (arguments : AnalyzeArguments)
  | cache (action : CacheAction) (arguments : CacheArguments)
  | config (preset : String)
deriving Repr, DecidableEq, Inhabited

namespace Invocation

/-- How sources are to be analysed. -/
def analyzeArguments (given : Given) : AnalyzeArguments where
  root := given.argument?.getD ""
  config? := given.value? "config"
  preset? := given.value? "preset"
  output? := given.value? "output"
  report? := given.value? "report"
  failFast := given.has "fail-fast"
  noCache := given.has "no-cache"

/-- What a chosen command is to do. -/
def ofChosen? (chosen : Chosen) : Option Invocation :=
  let given := chosen.given
  if chosen.names = [analyzeCommand.name] then some (.analyze (analyzeArguments given))
  else if chosen.names = [configCommand.name] then
    some (.config ((given.value? "preset").getD defaultPreset))
  else
    (CacheAction.all.find? fun action => chosen.names = [cacheCommand.name, action.name]).map
      fun action => .cache action { dir? := given.value? "dir", config? := given.value? "config" }

/-- What arguments want the program to do. -/
def ofArguments (arguments : List String) : Except Stop Invocation :=
  match program.choose arguments with
  | .error stop => .error stop
  | .ok chosen =>
      match ofChosen? chosen with
      | some invocation => .ok invocation
      | none => .error .misuse

end Invocation

end SourceFacts.CommandLine
