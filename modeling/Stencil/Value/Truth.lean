-- Which values let a section render, and which are empty or blank. A mapping is always true, and
-- so is a stream, whose size is not known. An object may raise an error when it is asked.
import Stencil.Text.Blank
import Stencil.Value.Basic

namespace Stencil.Value

/-- Whether a section renders for a value. -/
def truth (v : Value) : Except HostError Bool :=
  match v with
  | .missing | .null => .ok false
  | .bool b => .ok b
  | .int i => .ok (i != 0)
  | .float x => .ok !(x == 0.0)
  | .text s | .markup s => .ok (s != "")
  | .bytes b => .ok !b.isEmpty
  | .object traits _ => traits.truth
  | .collection traits items _ => traits.truth.getD (.ok !items.isEmpty)
  | v =>
    match v.size? with
    | some n => .ok (n != 0)
    | none => .ok true

/-- Whether there is something to render for a value that is no sequence. -/
def isShown (v : Value) : Except HostError Bool := if v.isRenderable then .ok true else v.truth

/-- Renderables are true by themselves. -/
theorem isShown_eq (v : Value) : v.isShown = v.truth := by
  cases v <;> rfl

/-- Nothing, an empty text, or a sequence or mapping without items. -/
def isEmpty (v : Value) : Bool :=
  match v with
  | .missing | .null => true
  | .text s | .markup s => s == ""
  | .mapping entries => entries.isEmpty
  | v =>
    match v.size? with
    | some n => n == 0
    | none => false

/-- Empty, or a text of blanks. -/
def isBlank (v : Value) : Bool :=
  match v.text? with
  | some s => Text.isBlankText s
  | none => v.isEmpty

end Stencil.Value
