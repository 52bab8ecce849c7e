-- The command line: which commands and options there are, what is checked before a command runs,
-- and how misuse is answered.
import Stencil.Command.Programs

namespace Stencil.Command

/-- A command with its options; `template` tells that it takes the path of a template. -/
structure Subcommand where
  name : String
  switches : List Switch
  template : Bool

def helpSwitch : Switch := ⟨"--help", none, .nothing⟩

def renderCommand : Subcommand where
  name := "render"
  switches := [
    ⟨"--data", some "-d", .existingPath⟩, ⟨"--config", some "-c", .existingPath⟩,
    ⟨"--strict", none, .nothing⟩, ⟨"--text", none, .nothing⟩, ⟨"--output", some "-o", .path⟩,
    helpSwitch]
  template := true

def validateCommand : Subcommand where
  name := "validate"
  switches := [
    ⟨"--level", none, .choice (Level.all.map Level.name)⟩,
    ⟨"--format", none, .choice ["text", "json"]⟩, helpSwitch]
  template := true

def filtersCommand : Subcommand := ⟨"filters", [helpSwitch], false⟩

def commands : List Subcommand := [renderCommand, validateCommand, filtersCommand]

/-- The options in front of the command. -/
def programSwitches : List Switch := [⟨"--verbose", some "-v", .nothing⟩, helpSwitch]

/-! ## Misuse -/

def programName : String := "lazystache"

/-- How the program, or one of its commands, is called. -/
def usage : Option Subcommand → String
  | none => s!"Usage: {programName} [OPTIONS] COMMAND [ARGS]...\n"
  | some c =>
    s!"Usage: {programName} {c.name} [OPTIONS]" ++ (if c.template then " TEMPLATE" else "") ++ "\n"

/-- The answer to misuse. -/
def misused (c : Option Subcommand) (misuse : Misuse) : Reply :=
  let name := match c with
    | none => programName
    | some c => s!"{programName} {c.name}"
  ⟨2, "", usage c ++ s!"Try '{name} --help' for help.\n\nError: " ++ misuse.message ++ "\n", none⟩

/-! ## Running -/

variable {m : Type → Type} [Monad m] (disk : Disk m)

/-- A path has to lead somewhere. -/
def checkPath (parameter path : String) : ExceptT Misuse m Unit := do
  match ← disk.look path with
  | .absent => throw (.noPath parameter path)
  | _ => return

/-- The value of an option has to be what the option wants. -/
def checkSwitch (s : Switch) (value : String) : ExceptT Misuse m Unit :=
  match s.demand with
  | .nothing | .path => return
  | .existingPath => checkPath disk s.names value
  | .choice names =>
    if value ∈ names then return else throw (.noChoice s.names value names)

/-- Checks the options in the order in which they were given, then the path of the template, then
what is left over. The answer is that path. -/
def checked (c : Subcommand) (a : Arguments) : ExceptT Misuse m String := do
  for s in a.switches do
    checkSwitch disk s ((a.value? s.long).getD "")
  let (path, extra) ←
    if c.template then
      match a.others with
      | [] => throw (.missingArgument "TEMPLATE")
      | path :: extra =>
        checkPath disk "'TEMPLATE'" path
        pure (path, extra)
    else pure ("", a.others)
  if extra.isEmpty then return path else throw (.extraArguments extra)

/-- Runs a command. -/
def perform (c : Subcommand) (a : Arguments) (template : String) : m Reply :=
  if c.name = "render" then render disk a template
  else if c.name = "validate" then validate disk a template
  else return listFilters

/-- Runs a command with its arguments, unless they cannot be used. -/
def runCommand (c : Subcommand) (arguments : List String) : m Reply := do
  match Arguments.read c.switches true arguments with
  | .error misuse => return misused (some c) misuse
  | .ok a =>
    if a.has "--help" then return .done (usage (some c))
    else
      match ← (checked disk c a).run with
      | .error misuse => return misused (some c) misuse
      | .ok template => perform disk c a template

/-- Runs the program. What is no command is read as an option once more, which matters behind two
dashes. -/
def run (arguments : List String) : m Reply := do
  match Arguments.read programSwitches false arguments with
  | .error misuse => return misused none misuse
  | .ok a =>
    if a.has "--help" then return .done (usage none)
    else
      match a.others with
      | [] =>
        if arguments.isEmpty then return ⟨2, "", usage none, none⟩
        else return misused none .missingCommand
      | name :: rest =>
        match commands.find? fun c => c.name = name with
        | some c => runCommand disk c rest
        | none =>
          match Arguments.read programSwitches false (name :: rest) with
          | .error misuse => return misused none misuse
          | .ok again =>
            if again.has "--help" then return .done (usage none)
            else
              let alike := Text.alikeNames (commands.map Subcommand.name) name
              return misused none (.noCommand name alike)

end Stencil.Command
