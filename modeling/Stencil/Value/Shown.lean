-- The text of values that have one of their own: truth values, numbers, bytes, days and moments,
-- objects, filters.
import Stencil.Decimal.Layout
import Stencil.Text.Numeral
import Stencil.Text.Quoted
import Stencil.Value.Basic

namespace Stencil

/-- Floating point numbers are written by place from `1e-4` up to below `1e16`, whole ones with one
zero behind the point; an exponent has at least two digits. -/
def floatLayout : Decimal.Layout where
  leastPlace := -4
  greatestPlace := 15
  wholeEnd := ".0"
  exponentMark := "e"
  exponentWidth := 2
  notANumber := "nan"
  infinity := "inf"

/-- The text of a truth value. -/
def shownBool (b : Bool) : String := if b then "True" else "False"

/-- The text of a value that is neither text nor a sequence, a mapping or a renderable. -/
def Value.shown : Value → String
  | .bool b => shownBool b
  | .int i => Text.numeral i
  | .float x => floatLayout.float x
  | .bytes b => Text.quotedBytes b
  | .day d => d.text
  | .moment m => m.text
  | .object traits _ => traits.text.toOption.getD ""
  | .filter f _ => f.text
  | .function _ name _ => name
  | _ => ""

/-- Whether a value has a text; a number with too many digits has none. -/
def Value.isWritable : Value → Bool
  | .int i => Text.isWritable i
  | _ => true

/-- The same text, or the error of writing it. -/
def Value.written (v : Value) : Except HostError String :=
  match v with
  | .object traits _ => traits.text
  | v => if v.isWritable then .ok v.shown else .error .unwritable

/-- The words for a renderable whose text is known. -/
def describeEager (text : String) (safe : Bool) : String :=
  s!"EagerRenderable({Text.quoted text}, safe={shownBool safe})"

end Stencil
