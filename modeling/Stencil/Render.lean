-- Rendering. The engine walks a template in a context; text is inserted as it stands, and what a
-- tag inserts is escaped at one place. Renderables may come back to the engine at any time, so
-- a run has a bound on how deeply its calls nest.
import Stencil.Evaluate
import Stencil.Value.Shown

namespace Stencil

structure Engine (σ : Type) where
  host : Host σ
  policy : MissingPolicy
  escape : Passage → Passage

namespace Engine

variable {σ : Type} (e : Engine σ)

/-! ## One tag -/

/-- What is inserted for a rendering. Nothing else escapes. -/
def insert (tag : Tag) (r : Rendering) : Passage :=
  if r.safe || !tag.escaped then r.text else e.escape r.text

/-- A text, escaped as a tag would escape it. -/
def escapeFor (tag : Tag) (text : String) : String :=
  if tag.escaped then (e.escape (.plain text)).text else text

/-- The value of the expression of a tag. -/
def resolve (tag : Tag) (c : Context) : Run σ Value := do
  let v ← (⟨e.host, e.policy⟩ : Evaluator σ).evaluate c tag.head.expression
  if v.isMissing && e.policy = .fail then Run.failWith (.unresolved tag.head.expression.text)
  else return v

/-- Changes the state of a tag. -/
def move (tag : Tag) (state : TagState) : Run σ Unit := do
  let _ ← Run.journal (·.move tag.id state)

/-- A new tag for a node of the template. -/
def create (head : Head) (form : Form) : Run σ Tag :=
  return ⟨(← Run.journal .create).created, head, form⟩

/-- Resolves the expression of a tag and renders its value. A fault that reaches the tag without a
place gets the place of the tag. -/
def visit {α : Type} (head : Head) (form : Form) (c : Context) (render : Tag → Value → Run σ α) :
    Run σ α := do
  let tag ← create head form
  Run.onFailure
    (do
      move tag .resolving
      let v ← e.resolve tag c
      move tag .resolved
      move tag .rendering
      let answer ← render tag v
      move tag .rendered
      return answer)
    (fun
      | .fault f => do
        move tag .failed
        return .fault (f.locate head.location)
      | failure => return failure)

/-! ## Renderings of values -/

/-- A pair of a text and a truth value stands for a rendering. -/
def pair? : Value → Option Rendering
  | .tuple [v, .bool safe] => v.passage?.map (⟨·, safe⟩)
  | _ => none

/-- What a renderable of a kind that the host defines may answer. -/
def answered (label : String) : Answer → Run σ Rendering
  | .rendering r => pure r
  | .value v =>
    match pair? v, v.markup?, v with
    | some r, _, _ => pure r
    | none, some s, _ => pure ⟨.plain s, true⟩
    | none, none, .text s => pure ⟨.plain s, false⟩
    | none, none, v => Run.failWith (.notRendering label v.kind)

/-- Renderings in a row, without their marks; they are safe together if each is safe. -/
def joined (rs : List Rendering) : Rendering :=
  ⟨.plain (String.join (rs.map (·.text.text))), rs.all (·.safe)⟩

/-- What a textual filter makes of the renderings of its arguments: plain text keeps their safety,
and any other value is left to be rendered. -/
def transformed (rs : List Rendering) : Value → Answer
  | .text s => .rendering ⟨.plain s, rs.all (·.safe)⟩
  | v => .value v

/-- What a section holds in a context, escaped already; other tags hold nothing. -/
def contentOf (tag : Tag) (nodes : Template → Context → Run σ String) (c : Context) :
    Run σ Rendering :=
  if tag.isSection then do return ⟨.plain (← nodes tag.children c), true⟩
  else pure ⟨.plain "", true⟩

/-- A value as a tag renders it: a section renders its content for the value, escaped already. -/
def valueFor (tag : Tag) (inSection : Value → Context → Run σ Passage)
    (value : Value → Context → Run σ Rendering) (v : Value) (c : Context) : Run σ Rendering :=
  if tag.isSection then do return ⟨← inSection v c, true⟩ else value v c

/-- How the requests of a script that renders for a tag are met. -/
def handlers (tag : Tag) (nodes : Template → Context → Run σ String)
    (inSection : Value → Context → Run σ Passage) (value : Value → Context → Run σ Rendering) :
    Script.Handlers σ where
  content := contentOf tag nodes
  value := valueFor tag inSection value
  template := nodes
  escape := e.escapeFor tag
  state := do return (← Run.journal id).stateOf tag.id

/-- The rendering that an answer stands for. -/
def finish (value : Value → Run σ Rendering) : Answer → Run σ Rendering
  | .rendering r => pure r
  | .value v => value v

/-- The same, where a pair of a text and a truth value is a rendering too. -/
def finishPair (value : Value → Run σ Rendering) : Answer → Run σ Rendering
  | .rendering r => pure r
  | .value v =>
    match pair? v with
    | some r => pure r
    | none => value v

/-! ## The engine -/

mutual

/-- The text of nodes in a context. -/
def renderNodes : Nat → Template → Context → Run σ String
  | 0, _, _ => Run.exhaust
  | depth + 1, nodes, c => do
    let texts ← nodes |> Run.each fun
      | .text s => pure s
      | .variableTag head escaped =>
        e.visit head (.variableTag escaped) c fun tag v => renderVariable depth tag v c
      | .sectionTag head inverted children inner =>
        e.visit head (.sectionTag inverted children inner) c fun tag v => do
          return (← renderSection depth tag v c).text
    return String.join texts

/-- The text of a variable tag for a value. The items of a sequence are inserted one by one, so that
safe ones stay as they are. -/
def renderVariable : Nat → Tag → Value → Context → Run σ String
  | 0, _, _, _ => Run.exhaust
  | depth + 1, tag, v, c =>
    match v.items? with
    | some items => do
      let texts ← items |> Run.eachItem fun item => renderVariable depth tag item c
      return String.join texts
    | none => do return (e.insert tag (← renderValue depth tag v c)).text

/-- The text of a section tag for a value: its content for each item of a sequence, for any other
value that is true, and for what is false if it is inverted. -/
def renderSection : Nat → Tag → Value → Context → Run σ Passage
  | 0, _, _, _ => Run.exhaust
  | depth + 1, tag, v, c =>
    if tag.isInverted then do
      if ← Run.ofExcept v.truth then return .plain ""
      return .plain (← renderNodes depth tag.children c)
    else
      match v.items? with
      | some items => do
        let texts ← items |> Run.eachItem fun item => renderItem depth tag item c
        return .plain (String.join (texts.map (·.text)))
      | none => do
        if ← Run.ofExcept v.isShown then renderItem depth tag v c else return .plain ""

/-- The content of a section for one value, which is innermost in it; renderables render the section
themselves. -/
def renderItem : Nat → Tag → Value → Context → Run σ Passage
  | 0, _, _, _ => Run.exhaust
  | depth + 1, tag, v, c =>
    if v.isRenderable then do return e.insert tag (← renderValue depth tag v c)
    else do return .plain (← renderNodes depth tag.children (c.push v []))

/-- The rendering of a value, not yet escaped. -/
def renderValue : Nat → Tag → Value → Context → Run σ Rendering
  | 0, _, _, _ => Run.exhaust
  | depth + 1, tag, v, c =>
    let handlers :=
      e.handlers tag (renderNodes depth) (renderSection depth tag) (renderValue depth tag)
    match v with
    | .eager text safe => pure ⟨.plain text, safe⟩
    | .deferred script captured =>
      Run.wrap (.renderingFailed v.kind) do
        finishPair (renderValue depth tag · c)
          (← (e.host.script script captured tag c).run handlers)
    | .pending body captured arguments =>
      Run.wrap (.renderingFailed v.kind) do
        let rs ← arguments |> Run.each (handlers.value · c)
        let value ← body.callTexts e.host captured (rs.map (·.text))
        finish (renderValue depth tag · c) (transformed rs value)
    | .custom label script captured => do
      let asked := (e.host.script script captured tag c).run handlers
      let answer ← asked.wrap (.renderingFailed label)
      answered label answer
    | .eachItem item index last key =>
      Run.wrap (.renderingFailed v.kind) <|
        if tag.isSection then
          handlers.content ((c.push (.mapping (Value.position index last key)) []).push item [])
        else renderValue depth tag item c
    | .missing | .null | .mapping _ => pure ⟨.plain "", false⟩
    | .text s => pure ⟨.plain s, false⟩
    | v =>
      match v.joinedItems?, v.markup? with
      | some items, _ => do
        let rs ← items |> Run.eachItem fun item => renderValue depth tag item c
        return joined rs
      | none, some s => pure ⟨.plain s, true⟩
      | none, none => do return ⟨.plain (← Run.ofExcept v.written), false⟩

end

/-- How deeply the calls of a rendering may nest. -/
def deepest : Nat := 1000

/-- The text of a template in a context. -/
def render (t : Template) (c : Context) : Run σ String := e.renderNodes deepest t c

end Engine

end Stencil
