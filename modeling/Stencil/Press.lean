-- The press: it reads templates, keeps the compiled ones, and renders them with its filters. The
-- filters of a press can grow, and templates compiled earlier see those that came later.
import Stencil.Finding
import Stencil.Library.Standard
import Stencil.Render
import Stencil.Template.Names
import Stencil.Template.Store
import Stencil.Template.Tree

namespace Stencil

structure Press where
  settings : Settings
  filters : Filters
  store : Store
  /-- How many templates were compiled so far. -/
  compiled : Nat

namespace Press

/-! ## Filters -/

/-- A value that is put among the filters: a mapping becomes a namespace of filters. -/
def asFilters : Value → Except HostError Value
  | .mapping entries => do
    return .mapping (← entries.mapM fun (key, value) => return (key, ← value.asFilter))
  | value => value.asFilter

/-- The press with a filter or a namespace of filters under a name. -/
def register (p : Press) (name : String) (value : Value) : Except HostError Press := do
  return { p with filters := p.filters.put name (← asFilters value) }

/-- A press with these settings, which has compiled nothing yet. -/
def start (settings : Settings) : Press where
  settings
  filters := if settings.standardLibrary then Library.standard else []
  store := .empty settings.cacheSize
  compiled := 0

/-- A press with these settings and further filters. -/
def create (settings : Settings) (filters : Filters) : Except HostError Press :=
  filters.foldlM (fun p (name, value) => p.register name value) (start settings)

/-- The filters that a template calls and the press does not have. -/
def unknownFilters (p : Press) (t : Template) : List String :=
  t.filterNames.filter fun name => (p.filters.resolve? name).isNone

/-! ## Templates -/

/-- The template that a source spells. -/
def read (p : Press) (source : String) : Except Template.Rejection Template :=
  Template.parse p.settings.templateName source

/-- The compiled template for a source: the one that is kept, or a new one. -/
def compile (p : Press) (source : String) : Except Template.Rejection Compiled × Press :=
  match p.store.find? source with
  | some kept => (.ok kept, p)
  | none =>
    match p.read source with
    | .error r => (.error r, p)
    | .ok t =>
      let (c, store) := p.store.insert ⟨p.compiled, source, t⟩
      (.ok c, { p with store, compiled := p.compiled + 1 })

/-- What is wrong with a source, apart from what only shows when it is rendered. -/
def check (p : Press) (source : String) : List Finding × Press :=
  if Text.isBlankText source then ([.empty], p)
  else
    match p.compile source with
    | (.error r, p) => ([.syntaxFlaw r], p)
    | (.ok c, p) => ((p.unknownFilters c.template).map .unknownFilter, p)

/-! ## Rendering -/

/-- The outermost scopes of every rendering: the filters of the press, and further ones. -/
def rootContext (p : Press) (more : Filters) : Context :=
  let own := Context.root .missing p.filters
  if more.isEmpty then own else own.withFilters more

/-- The context of a rendering: data, unless it is null, and named values in front of it. -/
def context (p : Press) (data : Value) (named : List (Value × Value)) : Context :=
  let base := p.rootContext []
  let withData := match data with
    | .null => base
    | data => base.push data []
  if named.isEmpty then withData else withData.push (.mapping named) []

/-- What missing values mean; a caller may override the settings. -/
def policy (p : Press) : Option Bool → MissingPolicy
  | none => p.settings.missing
  | some strict => if strict then .fail else .empty

variable {σ : Type}

def engine (p : Press) (host : Host σ) (strict : Option Bool) : Engine σ :=
  ⟨host, p.policy strict, p.settings.contentType.escape⟩

/-- The text of a compiled template. -/
def render (p : Press) (host : Host σ) (c : Compiled) (data : Value)
    (named : List (Value × Value)) (strict : Option Bool) : Run σ String :=
  (p.engine host strict).render c.template (p.context data named)

/-- A run with the compiled template for a source, which fails if the source is rejected. -/
def withCompiled {α : Type} (p : Press) (source : String) (f : Press → Compiled → Run σ α) :
    Run σ α × Press :=
  match p.compile source with
  | (.error r, p) => (Run.fail (.fault (.ofRejection r)), p)
  | (.ok c, p) => (f p c, p)

/-- The text of a source. -/
def renderSource (p : Press) (host : Host σ) (source : String) (data : Value)
    (strict : Option Bool) : Run σ String × Press :=
  p.withCompiled source fun p c => p.render host c data [] strict

end Press

end Stencil
