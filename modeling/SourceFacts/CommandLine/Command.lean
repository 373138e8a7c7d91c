import SourceFacts.Text.Pieces

namespace SourceFacts.CommandLine

/-!
# Commands and their help

What a command consists of, and how a user is told about it.
-/

open Text

/-!
## Commands

A command of a program has switches, perhaps an argument that it needs, or commands
of its own, of which one has to be chosen.
-/

/-- What a switch takes after it. -/
inductive Taken where
  | nothing
  /-- A text, which may be empty. -/
  | text (name : String)
  /-- A path, which is not empty. -/
  | path (name : String)
deriving Repr, DecidableEq, Inhabited

/-- A switch, which is written in full or as a letter. -/
structure Switch where
  name : String
  letter? : Option Char := none
  taken : Taken := .nothing
  about : String
deriving Repr, DecidableEq, Inhabited

/-- A path that a command needs. -/
structure Argument where
  name : String
  about : String
deriving Repr, DecidableEq, Inhabited

/-- A command. -/
structure Command where
  name : String
  about : String
  argument? : Option Argument := none
  switches : List Switch := []
  commands : List Command := []
deriving Repr, Inhabited

/-- The switch that shows what a command is for. -/
def helpSwitch : Switch where
  name := "help"
  letter? := some 'h'
  about := "Print help"

/-- The switch that shows the version of a program. -/
def versionSwitch : Switch where
  name := "version"
  letter? := some 'V'
  about := "Print version"

/-- The command of its own that shows what the commands of a command are for. -/
def helpCommand : String := "help"

namespace Command

/-- Whether one of the commands of a command has to be chosen. -/
def isGroup (command : Command) : Bool := !command.commands.isEmpty

/-- The command of a name. -/
def command? (command : Command) (name : String) : Option Command :=
  command.commands.find? (·.name = name)

/-- The switch of a name. -/
def switch? (command : Command) (name : String) : Option Switch :=
  command.switches.find? (·.name = name)

/-- The switch of a letter. -/
def switchOfLetter? (command : Command) (letter : Char) : Option Switch :=
  command.switches.find? (·.letter? = some letter)

/-- The command that names lead to. -/
def follow? (command : Command) : List String → Option Command
  | [] => some command
  | name :: rest =>
      match command.command? name with
      | none => none
      | some next => next.follow? rest

end Command

/-!
## Help

What a command is for, in words: how it is written, and a table of each of its
commands, arguments and switches.
-/

/-- A row of a table. -/
structure HelpRow where
  label : String
  about : String
deriving Repr, DecidableEq, Inhabited

/-- A table under a title, nothing if it has no rows. -/
def helpTable (title : String) (rows : List HelpRow) : String :=
  let width := (rows.map (·.label.length)).foldl max 0
  let line (row : HelpRow) : String :=
    let gap := String.ofList (List.replicate (width + 2 - row.label.length) ' ')
    "  " ++ row.label ++ gap ++ row.about ++ "\n"
  if rows.isEmpty then "" else "\n" ++ title ++ ":\n" ++ join "" (rows.map line)

/-- How a switch is written. -/
def Switch.label (switch : Switch) : String :=
  let letter := match switch.letter? with
    | some letter => "-" ++ letter.toString ++ ", "
    | none => "    "
  let taken := match switch.taken with
    | .nothing => ""
    | .text name | .path name => " <" ++ name ++ ">"
  letter ++ "--" ++ switch.name ++ taken

/-- The row of a switch. -/
def Switch.row (switch : Switch) : HelpRow := { label := switch.label, about := switch.about }

/-- What the command of its own that shows help is for. -/
def helpCommandAbout : String := "Print this message or the help of the given subcommand(s)"

/-- What a command is for, in words. -/
def Command.help (command : Command) (program : String) (names : List String) : String :=
  let written := join " " (program :: names)
  let needed := match command.argument? with
    | some argument => " <" ++ argument.name ++ ">"
    | none => if command.isGroup then " <COMMAND>" else ""
  let commands := command.commands.map fun command =>
    { label := command.name, about := command.about : HelpRow }
  let helpRow : HelpRow := { label := helpCommand, about := helpCommandAbout }
  let arguments := command.argument?.toList.map fun argument =>
    { label := "<" ++ argument.name ++ ">", about := argument.about : HelpRow }
  let general := helpSwitch :: if names.isEmpty then [versionSwitch] else []
  command.about ++ "\n\nUsage: " ++ written ++ " [OPTIONS]" ++ needed ++ "\n" ++
    helpTable "Commands" (if commands.isEmpty then [] else commands ++ [helpRow]) ++
    helpTable "Arguments" arguments ++
    helpTable "Options" ((command.switches ++ general).map Switch.row)

end SourceFacts.CommandLine
