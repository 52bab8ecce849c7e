-- The host program. It brings the functions behind its filters and the scripts behind its
-- renderables. A script asks the engine for renderings, one request after the other, and ends
-- with an answer; when a request fails, the script ends with that failure.
import Stencil.Context
import Stencil.Run
import Stencil.Tag

namespace Stencil

/-- What a renderable of the host answers: a rendering, or a value to be rendered. -/
inductive Answer where
  | rendering (r : Rendering)
  | value (v : Value)

inductive Script (σ : Type) where
  | done (answer : Answer)
  | fail (failure : Failure)
  /-- Asks for the content of the tag in a context. -/
  | content (context : Context) (next : Rendering → Script σ)
  /-- Asks for a value, rendered as the tag would render it. -/
  | value (value : Value) (context : Context) (next : Rendering → Script σ)
  /-- Asks for another template in a context. -/
  | template (template : Template) (context : Context) (next : String → Script σ)
  /-- Asks for a text, escaped as the tag would escape it. -/
  | escape (text : String) (next : String → Script σ)
  /-- Asks how far the tag has come. -/
  | state (next : TagState → Script σ)
  /-- Changes what lies outside the templates, and looks at it as it was before. -/
  | outside (change : Outside σ → Outside σ) (next : Outside σ → Script σ)

structure Host (σ : Type) where
  /-- A function by its name, applied to the values that it has captured and to its arguments. -/
  call (function : String) (captured arguments : List Value) (o : Outside σ) :
    Except Failure Value × Outside σ
  /-- A renderable by its name, for a tag in a context. -/
  script (name : String) (captured : List Value) (tag : Tag) (context : Context) : Script σ

/-- A host without functions and renderables. -/
def Host.none : Host Unit where
  call name _ _ o := (.error (.host (.raised "NameError" name)), o)
  script _ _ _ _ := .done (.rendering ⟨.plain "", true⟩)

/-- A call of a function of the host. -/
def Host.run {σ : Type} (host : Host σ) (function : String) (captured arguments : List Value) :
    Run σ Value := fun w =>
  match host.call function captured arguments w.outside with
  | (.ok value, o) => (.done value, { w with outside := o })
  | (.error failure, o) => (.failed failure, { w with outside := o })

/-- How the requests of a script are met. -/
structure Script.Handlers (σ : Type) where
  content : Context → Run σ Rendering
  value : Value → Context → Run σ Rendering
  template : Template → Context → Run σ String
  escape : String → String
  state : Run σ TagState

/-- The answer of a script whose requests are met by these handlers. -/
def Script.run {σ : Type} (h : Handlers σ) : Script σ → Run σ Answer
  | .done a => pure a
  | .fail e => Run.fail e
  | .content c next => h.content c >>= fun r => (next r).run h
  | .value v c next => h.value v c >>= fun r => (next r).run h
  | .template t c next => h.template t c >>= fun s => (next s).run h
  | .escape s next => (next (h.escape s)).run h
  | .state next => h.state >>= fun s => (next s).run h
  | .outside change next => Run.outside (fun o => (o, change o)) >>= fun o => (next o).run h

end Stencil
