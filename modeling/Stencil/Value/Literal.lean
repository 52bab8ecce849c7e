-- Values as they are written among other values: texts between quotes, lists and mappings between
-- brackets.
import Stencil.Value.Shown

namespace Stencil.Value

/-- Parts between brackets. -/
def bracketed (left right : String) (parts : List String) : String :=
  left ++ ", ".intercalate parts ++ right

mutual

/-- A value as it is written. -/
def literal : Value → String
  | .missing => "MISSING"
  | .null => "None"
  | .text s => Text.quoted s
  | .markup s => bracketed "Markup(" ")" [Text.quoted s]
  | .list items => bracketed "[" "]" (literals items)
  | .tuple [item] => "(" ++ literal item ++ ",)"
  | .tuple items => bracketed "(" ")" (literals items)
  | .range start stop step =>
    bracketed "range(" ")"
      ([Text.numeral start, Text.numeral stop] ++ if step = 1 then [] else [Text.numeral step])
  | .mapping entries => bracketed "\x7b" "\x7d" (literalEntries entries)
  | .eager content safe => describeEager content safe
  | v => v.shown

def literals : List Value → List String
  | [] => []
  | v :: rest => literal v :: literals rest

def literalEntries : List (Value × Value) → List String
  | [] => []
  | (key, v) :: rest => (literal key ++ ": " ++ literal v) :: literalEntries rest

end

/-- The text of a value that is a key. -/
def keyText (key : Value) : String := key.text?.getD key.literal

end Stencil.Value
