-- The arguments of a command: options with two dashes, or with one and a letter, and what stands
-- between them. The first argument that cannot be read is reported.
import Stencil.Text.Likeness
import Stencil.Text.Quoted

namespace Stencil.Command

/-- What an option wants behind it. -/
inductive Demand where
  | nothing
  /-- The path of a file that need not be there. -/
  | path
  /-- A path that leads somewhere. -/
  | existingPath
  | choice (names : List String)
  deriving DecidableEq, Repr

structure Switch where
  long : String
  short : Option String
  demand : Demand
  deriving DecidableEq, Repr

/-- The names of an option, as messages give them. -/
def Switch.names (s : Switch) : String :=
  " / ".intercalate ((s.long :: s.short.toList).map Text.quoted)

/-- Why arguments cannot be used. -/
inductive Misuse where
  /-- There is no such option; those whose names are like it may have been meant. -/
  | noSwitch (name : String) (alike : List String)
  | noValueTaken (name : String)
  | valueNeeded (name : String)
  | missingArgument (name : String)
  | noPath (parameter path : String)
  | noChoice (parameter value : String) (choices : List String)
  | extraArguments (arguments : List String)
  /-- There is no such command; those whose names are like it may have been meant. -/
  | noCommand (name : String) (alike : List String)
  | missingCommand
  deriving DecidableEq, Repr

/-- Asks for names that may have been meant. -/
def meantInstead (names : List String) : String :=
  match names.map Text.quoted with
  | [] => ""
  | [name] => s!" Did you mean {name}?"
  | names => " (Did you mean one of: " ++ ", ".intercalate names ++ "?)"

def Misuse.message : Misuse → String
  | .noSwitch name alike =>
    "No such option " ++ Text.quoted name ++ "." ++ meantInstead alike
  | .noValueTaken name => "Option " ++ Text.quoted name ++ " does not take a value."
  | .valueNeeded name => "Option " ++ Text.quoted name ++ " requires an argument."
  | .missingArgument name => s!"Missing argument '{name}'."
  | .noPath parameter path =>
    s!"Invalid value for {parameter}: Path " ++ Text.quoted path ++ " does not exist."
  | .noChoice parameter value choices =>
    s!"Invalid value for {parameter}: " ++ Text.quoted value ++ " is not one of " ++
      ", ".intercalate (choices.map Text.quoted) ++ "."
  | .extraArguments arguments =>
    "Got unexpected extra argument" ++ (if arguments.length = 1 then "" else "s") ++ " (" ++
      " ".intercalate arguments ++ ")"
  | .noCommand name alike =>
    "No such command " ++ Text.quoted name ++ "." ++ meantInstead alike
  | .missingCommand => "Missing command."

/-- The options that one argument gives, and the last one with its name if its value follows. -/
structure Taken where
  given : List (Switch × String)
  wanting : Option (String × Switch)

/-- Options of one letter in a row; what stands behind one that wants a value is its value. A letter
is too short for another one to be like it. -/
def takeShort (switches : List Switch) : List Char → Except Misuse Taken
  | [] => .ok ⟨[], none⟩
  | c :: rest =>
    let name := String.ofList ['-', c]
    match switches.find? fun s => s.short = some name with
    | none => .error (.noSwitch name [])
    | some s =>
      if s.demand = .nothing then do
        let taken ← takeShort switches rest
        return { taken with given := (s, "") :: taken.given }
      else if rest.isEmpty then .ok ⟨[], some (name, s)⟩
      else .ok ⟨[(s, String.ofList rest)], none⟩

/-- The options of an argument that begins with a dash. An equals sign ends a long name. -/
def take (switches : List Switch) (argument : List Char) : Except Misuse Taken :=
  let name := String.ofList (argument.takeWhile (· ≠ '='))
  match switches.find? fun s => s.long = name, argument.dropWhile (· ≠ '=') with
  | none, _ =>
    if argument.take 2 = ['-', '-'] then
      .error (.noSwitch name (Text.alikeNames (switches.map Switch.long) name))
    else takeShort switches (argument.drop 1)
  | some s, [] => .ok (if s.demand = .nothing then ⟨[(s, "")], none⟩ else ⟨[], some (name, s)⟩)
  | some s, _ :: value =>
    if s.demand = .nothing then .error (.noValueTaken name)
    else .ok ⟨[(s, String.ofList value)], none⟩

/-- Arguments that were read: the options in order, and the others. -/
structure Arguments where
  given : List (Switch × String)
  others : List String

namespace Arguments

/-- Reads arguments. Two dashes end the options; unless `mixed`, so does an argument that is no
option. -/
def read (switches : List Switch) (mixed : Bool) : List String → Except Misuse Arguments
  | [] => .ok ⟨[], []⟩
  | a :: rest =>
    if a = "--" then .ok ⟨[], rest⟩
    else if a.toList.head? = some '-' && a ≠ "-" then do
      let taken ← take switches a.toList
      match taken.wanting, rest with
      | none, rest =>
        let more ← read switches mixed rest
        return { more with given := taken.given ++ more.given }
      | some (name, _), [] => throw (.valueNeeded name)
      | some (_, s), value :: rest =>
        let more ← read switches mixed rest
        return { more with given := taken.given ++ (s, value) :: more.given }
    else if mixed then do
      let more ← read switches mixed rest
      return { more with others := a :: more.others }
    else .ok ⟨[], a :: rest⟩

/-- The value of an option, which is the last one given. -/
def value? (a : Arguments) (long : String) : Option String :=
  (a.given.reverse.find? fun (s, _) => s.long = long).map Prod.snd

def has (a : Arguments) (long : String) : Bool := (a.value? long).isSome

/-- The options given, each once, in the order in which they were given first. -/
def switches (a : Arguments) : List Switch := (a.given.map Prod.fst).eraseDups

end Arguments

end Stencil.Command
