import SourceFacts.CommandLine.Command

namespace SourceFacts.CommandLine

/-!
# Reading arguments

Arguments are read from left to right. No switch comes twice, and one that takes
something does not take what looks like a switch. After two hyphens nothing is a
switch any more.
-/

/-- What was given to a command. -/
structure Given where
  /-- The names of the switches that take nothing. -/
  flags : List String := []
  values : List (String × String) := []
  argument? : Option String := none
deriving Repr, DecidableEq, Inhabited

namespace Given

/-- Whether a switch that takes nothing was given. -/
def has (given : Given) (name : String) : Bool := given.flags.contains name

/-- What was given to a switch. -/
def value? (given : Given) (name : String) : Option String :=
  (given.values.find? (·.1 = name)).map (·.2)

end Given

/-- Why there is no command to be carried out. -/
inductive Stop where
  /-- The arguments make no sense. -/
  | misuse
  /-- What the command with these names is for is to be shown. -/
  | help (names : List String)
  | version
deriving Repr, DecidableEq, Inhabited

/-- A command that was chosen, by the names that lead to it. -/
structure Chosen where
  names : List String
  given : Given
deriving Repr, DecidableEq, Inhabited

/-- How far arguments have been read. -/
structure ArgumentReader where
  command : Command
  /-- The names that lead to the command. -/
  names : List String := []
  given : Given := {}
  /-- The switch that still has to take something. -/
  pending? : Option Switch := none
  /-- Whether nothing is a switch any more. -/
  afterHyphens : Bool := false
deriving Repr, Inhabited

namespace ArgumentReader

/-- Gives a switch nothing. -/
def giveFlag (reader : ArgumentReader) (switch : Switch) : Except Stop ArgumentReader :=
  if reader.given.has switch.name then .error .misuse
  else .ok { reader with
    given := { reader.given with flags := switch.name :: reader.given.flags } }

/-- Gives a switch something. -/
def giveValue (reader : ArgumentReader) (switch : Switch) (value : String) :
    Except Stop ArgumentReader :=
  let isRefused := match switch.taken with
    | .nothing => true
    | .text _ => false
    | .path _ => value = ""
  if isRefused || (reader.given.value? switch.name).isSome then .error .misuse
  else .ok { reader with
    pending? := none
    given := { reader.given with values := (switch.name, value) :: reader.given.values } }

/-- Takes a switch that stands alone. -/
def takeSwitch (reader : ArgumentReader) (switch : Switch) : Except Stop ArgumentReader :=
  match switch.taken with
  | .nothing => reader.giveFlag switch
  | .text _ | .path _ => .ok { reader with pending? := some switch }

/-- Takes a switch that is written in full, with what is attached to it. -/
def takeName (reader : ArgumentReader) (name : String) (attached? : Option String) :
    Except Stop ArgumentReader :=
  match reader.command.switch? name, attached? with
  | some switch, none => reader.takeSwitch switch
  | some switch, some value => reader.giveValue switch value
  | none, none =>
      if name = helpSwitch.name then .error (.help reader.names)
      else if name = versionSwitch.name && reader.names.isEmpty then .error .version
      else .error .misuse
  | none, some _ => .error .misuse

/-- Takes letters of switches; what follows one that takes something is attached to
it. -/
def takeLetters (reader : ArgumentReader) : List Char → Except Stop ArgumentReader
  | [] => .ok reader
  | letter :: rest =>
      match reader.command.switchOfLetter? letter with
      | some switch =>
          match switch.taken, rest with
          | .nothing, rest =>
              match reader.giveFlag switch with
              | .error stop => .error stop
              | .ok reader => reader.takeLetters rest
          | _, [] => reader.takeSwitch switch
          | _, '=' :: value => reader.giveValue switch (String.ofList value)
          | _, value => reader.giveValue switch (String.ofList value)
      | none =>
          if some letter = helpSwitch.letter? then .error (.help reader.names)
          else if some letter = versionSwitch.letter? && reader.names.isEmpty then
            .error .version
          else .error .misuse

/-- Takes an argument that is no switch. -/
def takeArgument (reader : ArgumentReader) (argument : String) : Except Stop ArgumentReader :=
  if reader.command.argument?.isNone || reader.given.argument?.isSome || argument = "" then
    .error .misuse
  else .ok { reader with given := { reader.given with argument? := some argument } }

/-- Takes an argument that is no command. -/
def takeOther (reader : ArgumentReader) (argument : String) : Except Stop ArgumentReader :=
  match argument.toList with
  | ['-', '-'] =>
      if reader.pending?.isSome then .error .misuse else .ok { reader with afterHyphens := true }
  | '-' :: '-' :: body =>
      if reader.pending?.isSome then .error .misuse
      else
        match body.span (· ≠ '=') with
        | (name, '=' :: value) =>
            reader.takeName (String.ofList name) (some (String.ofList value))
        | (name, _) => reader.takeName (String.ofList name) none
  | '-' :: letter :: rest =>
      if reader.pending?.isSome then .error .misuse else reader.takeLetters (letter :: rest)
  | _ =>
      match reader.pending? with
      | some switch => reader.giveValue switch argument
      | none => reader.takeArgument argument

/-- What to show when help with the commands of some names is asked for. -/
def helpWith (reader : ArgumentReader) (names : List String) : Stop :=
  if (reader.command.follow? names).isSome then .help (reader.names ++ names) else .misuse

/-- The command that was chosen after the last argument. -/
def finish (reader : ArgumentReader) : Except Stop Chosen :=
  let lacksArgument := reader.command.argument?.isSome && reader.given.argument?.isNone
  if reader.command.isGroup || reader.pending?.isSome || lacksArgument then .error .misuse
  else .ok { names := reader.names, given := reader.given }

/-- Reads arguments. -/
def read (reader : ArgumentReader) : List String → Except Stop Chosen
  | [] => reader.finish
  | argument :: rest =>
      if reader.afterHyphens then
        match reader.takeArgument argument with
        | .error stop => .error stop
        | .ok reader => reader.read rest
      else if reader.command.isGroup && argument = helpCommand then
        .error (reader.helpWith rest)
      else
        match reader.command.command? argument with
        | some command => read { command, names := reader.names ++ [argument] } rest
        | none =>
            match reader.takeOther argument with
            | .error stop => .error stop
            | .ok reader => reader.read rest

end ArgumentReader

/-- The command of a program that arguments choose. -/
def Command.choose (program : Command) (arguments : List String) : Except Stop Chosen :=
  ArgumentReader.read { command := program } arguments

end SourceFacts.CommandLine
