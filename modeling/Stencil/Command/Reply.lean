-- What a command answers: what it prints, and the code that it ends with. Faults of templates, of
-- settings and of data are reported; anything else ends a command at once.
import Stencil.Command.Arguments
import Stencil.Fault
import Stencil.Settings.File
import Stencil.Terminal.Styled

namespace Stencil.Command

/-- What goes wrong while a template is rendered. -/
inductive Trouble where
  | settings (flaw : Settings.FileFlaw)
  /-- A path leads to a directory where a file is needed. -/
  | directory (path : String)
  /-- A data file that spells nothing. -/
  | malformedData (path : String)
  | failure (failure : Failure)
  /-- The rendering was nested too deeply. -/
  | exhausted
  deriving Repr

namespace Trouble

def message : Trouble → String
  | .settings flaw => flaw.message
  | .directory path => Settings.directoryMessage path
  | .malformedData path => s!"Failed to parse data file {path}"
  | .failure (.fault f) => f.message
  | .failure (.host e) => e.text
  | .exhausted => "maximum recursion depth exceeded"

/-- Whether the command reports it; otherwise it ends the command. -/
def isReported : Trouble → Bool
  | .settings (.refused _ .noTextKey) | .exhausted => false
  | .failure (.host e) | .settings (.unreadable e) => e.kind == "ValueError"
  | _ => true

end Trouble

/-- What ends a command without a report. -/
inductive Crash where
  | trouble (trouble : Trouble)
  /-- A text for the terminal closes a style that is not open. -/
  | style
  /-- A file cannot be written; the flag tells that a directory stands in its place. -/
  | unwritable (directory : Bool)
  deriving Repr

structure Reply where
  code : Nat
  out : String
  err : String
  crash : Option Crash

namespace Reply

/-- A command that did its work. -/
def done (out : String) : Reply := ⟨0, out, "", none⟩

/-- A command that ended at once. -/
def crashed (out : String) (crash : Crash) : Reply := ⟨1, out, "", some crash⟩

/-- Lines on the terminal, up to the first one whose styles do not match. -/
def printed : List String → String × Bool
  | [] => ("", true)
  | line :: rest =>
    match Terminal.shown? line with
    | none => ("", false)
    | some s =>
      let (out, complete) := printed rest
      (s ++ out, complete)

/-- A command that prints lines and ends with a code. -/
def lines (code : Nat) (lines : List String) : Reply :=
  match printed lines with
  | (out, true) => ⟨code, out, "", none⟩
  | (out, false) => crashed out .style

/-- A command that met trouble. -/
def ofTrouble (t : Trouble) : Reply :=
  if t.isReported then
    match Terminal.shown? ("Error: " ++ t.message) with
    | some line => ⟨1, "", line ++ "Aborted!\n", none⟩
    | none => crashed "" .style
  else crashed "" (.trouble t)

end Reply

end Stencil.Command
