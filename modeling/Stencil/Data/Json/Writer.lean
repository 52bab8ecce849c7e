-- Writing JSON in ASCII: every item and every member on a line of its own, indented by two blanks
-- for each list or object around it.
import Stencil.Text.Numeral
import Stencil.Text.Script
import Stencil.Value.Basic

namespace Stencil.Data.Json

/-- The beginning of a line inside so many lists and objects. -/
def indent (depth : Nat) : String := String.ofList (List.replicate (2 * depth) ' ')

/-- Lines between brackets. -/
def enclose (opening closing : String) (depth : Nat) (lines : List String) : String :=
  if lines.isEmpty then opening ++ closing
  else
    opening ++ "\n" ++ ",\n".intercalate (lines.map (indent (depth + 1) ++ ·)) ++ "\n" ++
      indent depth ++ closing

mutual

/-- A value inside so many lists and objects. Only truth values, whole numbers, texts, lists and
mappings with texts as keys have a form of their own. -/
def write (depth : Nat) : Value → String
  | .bool b => if b then "true" else "false"
  | .int i => Text.numeral i
  | .text s => Text.jsonString s
  | .list items => enclose "[" "]" depth (writeItems (depth + 1) items)
  | .mapping entries => enclose "\x7b" "\x7d" depth (writeMembers (depth + 1) entries)
  | _ => "null"

def writeItems (depth : Nat) : List Value → List String
  | [] => []
  | v :: rest => write depth v :: writeItems depth rest

def writeMembers (depth : Nat) : List (Value × Value) → List String
  | [] => []
  | (key, v) :: rest =>
    (Text.jsonString (key.text?.getD "") ++ ": " ++ write depth v) :: writeMembers depth rest

end

end Stencil.Data.Json
