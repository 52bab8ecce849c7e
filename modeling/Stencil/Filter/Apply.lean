-- Applying filters. An error of the function behind a filter becomes a fault that names the
-- function; only a filter that the host defines as a whole raises errors as they are.
import Stencil.Host
import Stencil.Library.Functions

namespace Stencil

variable {σ : Type}

/-- A call of the function behind a textual filter, with the texts of its arguments. -/
def Body.callTexts (host : Host σ) (body : Body TextFunction) (captured : List Value)
    (texts : List Passage) : Run σ Value :=
  match body with
  | .library function => (Run.ofExcept (function.call texts)).wrap (.filterFailed function.name)
  | .host name => (host.run name captured (texts.map .ofPassage)).wrap (.filterFailed name)

/-- The value of a filter call. A textual filter only keeps its arguments, to be rendered with the
tag. -/
def Filter.apply (host : Host σ) (f : Filter) (captured arguments : List Value) : Run σ Value :=
  match f with
  | .generic (.library function) => (function.call arguments).wrap (.filterFailed function.name)
  | .generic (.host name) => (host.run name captured arguments).wrap (.filterFailed name)
  | .textual body => pure (.pending body captured arguments)
  | .variadic name => (host.run name captured [.list arguments]).wrap (.filterFailed name)
  | .custom _ name => host.run name captured arguments

/-- A value as a filter: filters are filters, and other functions take the values of their
arguments. -/
def Value.asFilter : Value → Except HostError Value
  | v@(.filter _ _) => .ok v
  | .function _ name captured => .ok (.filter (.generic (.host name)) captured)
  | v => .error (.noFilter v.kind)

end Stencil
