import SourceFacts.CommandLine.Command
import SourceFacts.CommandLine.Complaint
import SourceFacts.CommandLine.Invocation
import SourceFacts.Config.Document
import SourceFacts.Run.Services
import SourceFacts.Run.Workspace

namespace SourceFacts.CommandLine

/-!
# Carrying out commands

What the program does in a directory: what it writes there and to the two streams,
and the code with which it exits.
-/

open Cache Config Disk Run Time

/-- The directory in which the program is started. -/
structure Directory where
  disk : Disk := {}
  clock : Clock := {}
  /-- How many tags were given out. -/
  tagsUsed : Nat := 0
deriving Repr, DecidableEq, Inhabited

/-- What the program leaves besides a directory. -/
structure Output where
  exitCode : Nat := 0
  stdout : String := ""
  stderr : String := ""
deriving Repr, DecidableEq, Inhabited

/-- The output of a program that ends with a complaint, after what it has written. -/
def Complaint.output (complaint : Complaint) (stdout : String) : Output where
  exitCode := 1
  stdout
  stderr := complaint.message

/-! ## Analysing sources -/

/-- The settings of a file. -/
def loadSettings (disk : Disk) (path : String) : Except Complaint Settings :=
  (Settings.load disk path).mapError fun failure =>
    .during ("loading config from " ++ path) (configTexts failure)

/-- The settings of a preset. -/
def presetSettings (name : String) : Except Complaint Settings :=
  match Preset.find name with
  | .ok preset => .ok (Settings.ofPreset preset)
  | .error failure => .error (.ofTexts (configTexts failure))

namespace AnalyzeArguments

/-- The settings that are chosen before switches change them. -/
def baseSettings (arguments : AnalyzeArguments) (disk : Disk) : Except Complaint Settings :=
  match arguments.config?, arguments.preset? with
  | some path, _ => loadSettings disk path
  | none, some name => presetSettings name
  | none, none => .ok {}

/-- The settings of a run. -/
def settings (arguments : AnalyzeArguments) (disk : Disk) : Except Complaint Settings := do
  let settings ← arguments.baseSettings disk
  return { settings with
    analysis := { settings.analysis with
      continueOnError := settings.analysis.continueOnError && !arguments.failFast }
    cache := { settings.cache with enabled := settings.cache.enabled && !arguments.noCache }
    report := match arguments.report? with
      | some path => { path? := some path }
      | none => settings.report }

end AnalyzeArguments

/-- Makes the file for the lines, if there is to be one. -/
def createOutput (directory : Directory) (output? : Option String) :
    Except Complaint Directory :=
  match output? with
  | none => .ok directory
  | some path =>
      let (now, clock) := directory.clock.read
      match directory.disk.write path [] now with
      | .ok disk => .ok { directory with disk, clock }
      | .error error => .error (.during ("creating " ++ path) [error.message])

/-- Whether the file for the lines is still the one that was made. -/
def outputStands (disk : Disk) (path : String) (made : Instant) : Bool :=
  match disk.find true path with
  | .ok (_, .file [] modified) => modified = made
  | _ => false

/-- Writes lines to their file, or else to the stream. If the file has been replaced,
they are lost with it. -/
def deliverLines (disk : Disk) (output? : Option String) (made : Instant) (lines : String) :
    String × Disk :=
  match output? with
  | none => (lines, disk)
  | some path =>
      if outputStands disk path made then
        ("", (disk.write path (Text.encode lines) made).toOption.getD disk)
      else ("", disk)

/-- The output of a run that has ended. -/
def endingOutput (failFast : Bool) (ending : Ending σ) (stdout : String) : Output :=
  match ending.result with
  | .ok statistics =>
      { exitCode := 0, stdout, stderr := ending.log.summary statistics.elapsedMilliseconds }
  | .error failure =>
      match failFast, failure with
      | true, .analysis failure =>
          { exitCode := 1
            stdout
            stderr := "Stopped at first failure: " ++ failure.message ++ "\n" ++
              ending.log.summary 0 }
      | _, failure => (Complaint.ofTexts (runTexts failure)).output stdout

/-- Analyses the sources below a directory. -/
def analyze (arguments : AnalyzeArguments) (directory : Directory) : Output × Directory :=
  let prepared : Except Complaint (Settings × List Facts.Descriptor × Directory) := do
    let settings ← arguments.settings directory.disk
    let files ← (scan directory.disk arguments.root).mapError fun failure =>
      .during ("scanning " ++ arguments.root) (deliveryTexts failure)
    return (settings, files, ← createOutput directory arguments.output?)
  match prepared with
  | .error complaint => (complaint.output "", directory)
  | .ok (settings, files, opened) =>
      match prepare settings [] opened.disk with
      | (.error failure, disk) =>
          ((Complaint.ofTexts (runTexts failure)).output "", { opened with disk })
      | (.ok (store, _), disk) =>
          let enricher := Summary.enricher settings.enrichment.configId
          let pipeline := { Pipeline.ofSettings settings enricher.configId with
            project := arguments.root }
          let services := Workspace.services settings.analysis enricher Lines.publisher
          let ending := pipeline.run services files {
            disk
            clock := opened.clock
            tagsUsed := opened.tagsUsed
            store
            enricher := 0
            publisher := {} }
          let made := directory.clock.read.1
          let lines := ending.state.publisher.text
          let (stdout, disk) := deliverLines ending.state.disk arguments.output? made lines
          (endingOutput arguments.failFast ending stdout,
            { disk, clock := ending.state.clock, tagsUsed := ending.state.tagsUsed })

/-! ## Looking after the cache -/

/-- The settings of the cache that is meant. -/
def CacheArguments.settings (arguments : CacheArguments) (disk : Disk) :
    Except Complaint CacheSettings := do
  let settings ← match arguments.config? with
    | some path => loadSettings disk path
    | none => .ok {}
  return { settings.cache with directory := arguments.dir?.getD settings.cache.directory }

/-- Does something with a cache. -/
def CacheAction.perform (action : CacheAction) (store : Store) (disk : Disk) (now : Instant) :
    Output × Disk :=
  let complain (failure : Cache.Failure) (stdout : String) : Output :=
    (Complaint.ofTexts (cacheTexts failure)).output stdout
  match action with
  | .stats =>
      let layout := "Cache directory: " ++ store.root ++ "\nSchema version:  " ++
        store.schemaVersion ++ "\n"
      match store.count disk with
      | .ok count =>
          ({ stdout := layout ++ "Entries:         " ++ toString count ++ "\n" }, disk)
      | .error failure => (complain failure layout, disk)
  | .purge =>
      match store.purge disk now with
      | (.ok removed, disk) =>
          ({ stdout := "Removed " ++ toString removed ++ " stale entries\n" }, disk)
      | (.error failure, disk) => (complain failure "", disk)
  | .clear =>
      match store.clear disk with
      | (.ok (), disk) => ({ stdout := "Cleared " ++ store.root ++ "\n" }, disk)
      | (.error failure, disk) => (complain failure "", disk)

/-- Opens a cache and does something with it. -/
def lookAfterCache (action : CacheAction) (arguments : CacheArguments) (directory : Directory) :
    Output × Directory :=
  match arguments.settings directory.disk with
  | .error complaint => (complaint.output "", directory)
  | .ok settings =>
      match Store.start settings [] directory.disk with
      | (.error failure, disk) =>
          let complaint := Complaint.during ("opening " ++ settings.directory) (cacheTexts failure)
          (complaint.output "", { directory with disk })
      | (.ok (store, _), disk) =>
          let (now, clock) := directory.clock.read
          let (output, disk) := action.perform store disk now
          (output, { directory with disk, clock })

/-! ## All commands -/

/-- Shows a preset. -/
def showPreset (name : String) : Output :=
  match presetSettings name with
  | .ok settings => { stdout := settings.toYaml }
  | .error complaint => complaint.output ""

/-- Carries out a command. -/
def Invocation.perform (invocation : Invocation) (directory : Directory) : Output × Directory :=
  match invocation with
  | .analyze arguments => CommandLine.analyze arguments directory
  | .cache action arguments => lookAfterCache action arguments directory
  | .config preset => (showPreset preset, directory)

/-- The output when there is no command to be carried out. -/
def Stop.output : Stop → Output
  | .misuse => { exitCode := 2 }
  | .help names =>
      { stdout := ((program.follow? names).getD program).help programName names }
  | .version => { stdout := programName ++ " " ++ programVersion ++ "\n" }

/-- Runs the program with arguments in a directory. -/
def runProgram (arguments : List String) (directory : Directory) : Output × Directory :=
  match Invocation.ofArguments arguments with
  | .error stop => (stop.output, directory)
  | .ok invocation => invocation.perform directory

end SourceFacts.CommandLine
