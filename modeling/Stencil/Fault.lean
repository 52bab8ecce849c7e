-- What goes wrong in templates. A fault has a cause and, once it has reached the tag that was
-- rendered, a place; a failure is a fault or an error of the host.
import Stencil.HostError
import Stencil.Template.Flaw

namespace Stencil

/-- The kinds of faults that functions of the host may raise by themselves. -/
inductive FaultKind where
  | template
  | syntaxFlaw
  | unresolved
  | filterFailed
  | rendering
  | mismatch
  deriving DecidableEq, Repr

inductive Cause where
  /-- A source that is no template. -/
  | syntaxFlaw (flaw : Template.Flaw)
  /-- A name or expression that has no value. -/
  | unresolved (name : String)
  /-- A function behind a filter raised an error; the name is that of the function or the call. -/
  | filterFailed (name : String) (error : HostError)
  /-- A renderable raised an error. -/
  | renderingFailed (kind : String) (error : HostError)
  /-- A value was called that is no filter. -/
  | notFilter (callee kind : String)
  /-- A renderable answered with something that is no rendering. -/
  | notRendering (renderable answer : String)
  /-- A fault that a function of the host raised. -/
  | raised (kind : FaultKind) (message : String)
  deriving DecidableEq, Repr

namespace Cause

def kind : Cause → FaultKind
  | .syntaxFlaw _ => .syntaxFlaw
  | .unresolved _ => .unresolved
  | .filterFailed .. => .filterFailed
  | .renderingFailed .. => .rendering
  | .notFilter .. | .notRendering .. => .mismatch
  | .raised kind _ => kind

def message : Cause → String
  | .syntaxFlaw flaw => flaw.message
  | .unresolved name => s!"Unresolved identifier '{name}'"
  | .filterFailed name error => s!"Filter '{name}' failed: {error.kind}: {error.text}"
  | .renderingFailed kind error => s!"{kind} failed to render: {error.text}"
  | .notFilter callee kind => s!"'{callee}' is not a filter (got {kind})"
  | .notRendering renderable answer =>
    s!"{renderable}.render returned {answer}, expected a Rendering"
  | .raised _ message => message

/-- The error that a fault wraps. -/
def error? : Cause → Option HostError
  | .filterFailed _ error | .renderingFailed _ error => some error
  | _ => none

end Cause

structure Fault where
  cause : Cause
  location : Option Location
  deriving DecidableEq, Repr

namespace Fault

/-- The message of a fault, with its place behind it if that is known. -/
def message (f : Fault) : String :=
  match f.location with
  | none => f.cause.message
  | some l => s!"{f.cause.message} ({l.describe})"

/-- The fault with a place; a place that is already known stays. -/
def locate (f : Fault) (l : Location) : Fault := { f with location := f.location.or (some l) }

def ofRejection (r : Template.Rejection) : Fault := ⟨.syntaxFlaw r.flaw, some r.location⟩

end Fault

inductive Failure where
  | fault (fault : Fault)
  | host (error : HostError)
  deriving DecidableEq, Repr

end Stencil
