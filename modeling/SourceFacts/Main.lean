import SourceFacts.CommandLine.Execution

/-!
# The program

The files of the directory in which the program works are given on standard input, as
a JSON object that maps paths to texts.
-/

namespace SourceFacts.Main

/-- A directory with a file added. -/
def withFile (disk : Disk) (file : String × Json) : Disk :=
  let content := Text.encode (file.2.asString?.getD "")
  let inParent := (disk.createDirectories ((Disk.Path.parent? file.1).getD "")).2
  (inParent.write file.1 content {}).toOption.getD inParent

/-- The directory that a text describes. -/
def directoryOfText (text : String) : Disk :=
  (((Json.parse? text).bind Json.asFields?).getD []).foldl withFile {}

/-- Reads a stream to its end. -/
partial def readAll (stream : IO.FS.Stream) (text : String) : IO String := do
  let line ← stream.getLine
  if line.isEmpty then return text else readAll stream (text ++ line)

end SourceFacts.Main

open SourceFacts Main in
/-- Runs the program. -/
def main (arguments : List String) : IO UInt32 := do
  let input ← readAll (← IO.getStdin) ""
  let started ← IO.monoNanosNow
  let directory : CommandLine.Directory := {
    disk := directoryOfText input
    clock := { reading := .ofNanoseconds started } }
  let (output, _) := CommandLine.runProgram arguments directory
  IO.print output.stdout
  IO.eprint output.stderr
  return UInt32.ofNat output.exitCode
