-- The tasks of a rendering. The engine is at nodes, at a tag, at a value or at an expression, and
-- from there it enters the next task. A task fails because one that it enters fails, because a
-- function or a renderable of the host raises something in it, or because the engine itself has to
-- give up.
import Stencil.Proofs.Failing
import Stencil.Proofs.Rendering

namespace Stencil

variable {σ : Type}

/-! ## Tasks -/

/-- What the engine may be at. -/
inductive Task where
  | nodes (depth : Nat) (t : Template) (c : Context)
  | visit (depth : Nat) (head : Head) (form : Form) (c : Context)
  | variableTag (depth : Nat) (tag : Tag) (v : Value) (c : Context)
  | sectionTag (depth : Nat) (tag : Tag) (v : Value) (c : Context)
  | item (depth : Nat) (tag : Tag) (v : Value) (c : Context)
  | value (depth : Nat) (tag : Tag) (v : Value) (c : Context)
  | evaluate (c : Context) (x : Expr)

/-- The world in which a new tag is about to be resolved. -/
def World.opened (w : World σ) : World σ :=
  { w with journal := w.journal.create.move w.journal.created .resolving }

/-- The world in which a resolved tag is about to be rendered. -/
def World.readied (w : World σ) (tag : Tag) : World σ :=
  { w with journal := (w.journal.move tag.id .resolved).move tag.id .rendering }

/-- The tag that is new in a world. -/
def World.newTag (w : World σ) (head : Head) (form : Form) : Tag := ⟨w.journal.created, head, form⟩

namespace Engine

variable (e : Engine σ)

/-- What the engine does for a tag with its value. -/
def renderTag (depth : Nat) (c : Context) (tag : Tag) (v : Value) : Run σ String :=
  match tag.form with
  | .variableTag _ => e.renderVariable depth tag v c
  | .sectionTag .. => do return (← e.renderSection depth tag v c).text

/-- What the engine does for a node. -/
def renderNode (depth : Nat) (c : Context) : Node → Run σ String
  | .text s => pure s
  | .variableTag head escaped => e.visit head (.variableTag escaped) c (e.renderTag depth c)
  | .sectionTag head inverted children inner =>
    e.visit head (.sectionTag inverted children inner) c (e.renderTag depth c)

theorem renderNodes_succ (depth : Nat) (t : Template) (c : Context) :
    e.renderNodes (depth + 1) t c = do
      return String.join (← t |> Run.each (e.renderNode depth c)) := by
  simp only [renderNodes]
  rfl

variable {α : Type} {w : World σ} {failure : Failure}

/-- How a failure leaves a tag. -/
def leave (tag : Tag) : Failure → Run σ Failure
  | .fault f => do
    move tag .failed
    return .fault (f.locate tag.head.location)
  | failure => return failure

/-- What the engine does for a tag once it is created. -/
def attend (tag : Tag) (c : Context) (render : Tag → Value → Run σ α) : Run σ α :=
  Run.onFailure
    (do
      move tag .resolving
      let v ← e.resolve tag c
      move tag .resolved
      move tag .rendering
      let answer ← render tag v
      move tag .rendered
      return answer)
    (leave tag)

theorem visit_apply (head : Head) (form : Form) (c : Context) (render : Tag → Value → Run σ α)
    (w : World σ) :
    e.visit head form c render w =
      e.attend (w.newTag head form) c render { w with journal := w.journal.create } := rfl

theorem fails_leave {r : Run σ α} {tag : Tag} :
    (r.onFailure (leave tag)).Fails w failure ↔
      ∃ inner, failure = inner.located tag.head.location ∧ r.Fails w inner := by
  unfold Run.Fails
  rcases hr : r w with ⟨a | inner | _, v⟩
  · simp [Run.onFailure, hr]
  · have left : (r.onFailure (leave tag) w).1 = .failed (inner.located tag.head.location) := by
      unfold Run.onFailure
      rw [hr]
      cases inner <;> rfl
    rw [left]
    simp [eq_comm]
  · simp [Run.onFailure, hr]

/-- A tag fails if its expression does, or if the rendering of its value does. -/
theorem fails_attend {tag : Tag} {c : Context} {render : Tag → Value → Run σ α} :
    (e.attend tag c render).Fails w failure ↔
      ∃ inner, failure = inner.located tag.head.location ∧
        ((e.resolve tag c).Fails { w with journal := w.journal.move tag.id .resolving } inner ∨
          ∃ v w', e.resolve tag c { w with journal := w.journal.move tag.id .resolving } =
            (.done v, w') ∧ (render tag v).Fails (w'.readied tag) inner) := by
  have shown (v : Value) (w' : World σ) (inner : Failure) :
      (do
        let answer ← render tag v
        move tag .rendered
        return answer).Fails w' inner ↔ (render tag v).Fails w' inner := by
    rw [Run.fails_bind]
    refine or_iff_left ?_
    rintro ⟨answer, w'', _, h⟩
    cases h
  have readied (v : Value) (w' : World σ) (inner : Failure) :
      (do
        move tag .resolved
        move tag .rendering
        let answer ← render tag v
        move tag .rendered
        return answer).Fails w' inner ↔ (render tag v).Fails (w'.readied tag) inner :=
    shown v (w'.readied tag) inner
  refine fails_leave.trans (exists_congr fun inner => and_congr_right fun _ => ?_)
  show (do
    let v ← e.resolve tag c
    move tag .resolved
    move tag .rendering
    let answer ← render tag v
    move tag .rendered
    return answer).Fails { w with journal := w.journal.move tag.id .resolving } inner ↔ _
  simp only [Run.fails_bind (r := e.resolve tag c), readied]

theorem fails_visit {head : Head} {form : Form} {c : Context} {render : Tag → Value → Run σ α} :
    (e.visit head form c render).Fails w failure ↔
      ∃ inner, failure = inner.located head.location ∧
        ((e.resolve (w.newTag head form) c).Fails w.opened inner ∨
          ∃ v w', e.resolve (w.newTag head form) c w.opened = (.done v, w') ∧
            (render (w.newTag head form) v).Fails (w'.readied (w.newTag head form)) inner) := by
  rw [Run.Fails, visit_apply]
  exact e.fails_attend

end Engine

/-! ## Functions and renderables of the host -/

/-- What raised a failure, as messages name it. -/
inductive Origin where
  /-- The function behind a filter. -/
  | filter (name : String)
  /-- A renderable itself. -/
  | renderable (kind : String)

namespace Origin

/-- The cause that wraps an error from there. -/
def cause : Origin → HostError → Cause
  | .filter name => .filterFailed name
  | .renderable kind => .renderingFailed kind

/-- The fault that becomes of a failure from there: an error is wrapped, and a fault stays. -/
def fault (o : Origin) : Failure → Fault
  | .host error => ⟨o.cause error, none⟩
  | .fault f => f

theorem wrapped_eq (o : Origin) (failure : Failure) :
    failure.wrapped o.cause = .fault (o.fault failure) := by
  cases failure <;> rfl

end Origin

/-- What a call of a filter runs at once, under its name; a textual filter runs nothing then. -/
def Filter.block? (host : Host σ) (callee : String) (captured arguments : List Value) :
    Filter → Option (String × Run σ Value)
  | .generic (.library function) => some (function.name, function.call arguments)
  | .generic (.host name) => some (name, host.run name captured arguments)
  | .textual _ => none
  | .variadic name => some (name, host.run name captured [.list arguments])
  | .custom _ name => some (callee, host.run name captured arguments)

/-- What a textual filter runs for the texts of its arguments, under its name. -/
def Body.block (host : Host σ) (captured : List Value) (texts : List Passage) :
    Body TextFunction → String × Run σ Value
  | .library function => (function.name, Run.ofExcept (function.call texts))
  | .host name => (name, host.run name captured (texts.map .ofPassage))

/-- A failure is wrapped at most once, and then by the innermost wrapper. -/
theorem Failure.wrapped_wrapped (outer inner : HostError → Cause) (failure : Failure) :
    (failure.wrapped inner).wrapped outer = failure.wrapped inner := by
  cases failure <;> rfl

section Blocks

variable {host : Host σ} {captured arguments : List Value} {w : World σ} {failure : Failure}

theorem Filter.fails_apply {f : Filter} {callee : String} :
    ((f.apply host captured arguments).wrap (.filterFailed callee)).Fails w failure ↔
      ∃ name block raised, f.block? host callee captured arguments = some (name, block) ∧
        block.Fails w raised ∧ failure = .fault ((Origin.filter name).fault raised) := by
  have once {name : String} {block : Run σ Value} :
      ((block.wrap (.filterFailed name)).wrap (.filterFailed callee)).Fails w failure ↔
        ∃ raised, block.Fails w raised ∧
          failure = .fault ((Origin.filter name).fault raised) := by
    simp only [Run.fails_wrap, ← Origin.wrapped_eq]
    constructor
    · rintro ⟨_, ⟨raised, h, rfl⟩, rfl⟩
      exact ⟨raised, h, Failure.wrapped_wrapped _ _ raised⟩
    · rintro ⟨raised, h, rfl⟩
      exact ⟨_, ⟨raised, h, rfl⟩, (Failure.wrapped_wrapped _ _ raised).symm⟩
  have only {n : String} {b : Run σ Value} :
      (∃ name block raised, some (n, b) = some (name, block) ∧ block.Fails w raised ∧
        failure = .fault ((Origin.filter name).fault raised)) ↔
        ∃ raised, b.Fails w raised ∧ failure = .fault ((Origin.filter n).fault raised) := by
    constructor
    · rintro ⟨_, _, raised, same, h⟩
      cases same
      exact ⟨raised, h⟩
    · rintro ⟨raised, h⟩
      exact ⟨n, b, raised, rfl, h⟩
  cases f with
  | generic body =>
    cases body with
    | library function => exact once.trans only.symm
    | host name => exact once.trans only.symm
  | textual body =>
    refine iff_of_false (fun h => ?_) ?_
    · obtain ⟨_, h, _⟩ := Run.fails_wrap.1 h
      exact Run.not_fails_pure h
    · rintro ⟨_, _, _, none, _⟩
      cases none
  | variadic name => exact once.trans only.symm
  | custom label name =>
    refine Iff.trans ?_ only.symm
    simp only [apply, Run.fails_wrap, ← Origin.wrapped_eq, Origin.cause]

theorem Body.fails_callTexts {body : Body TextFunction} {texts : List Passage} :
    (body.callTexts host captured texts).Fails w failure ↔
      ∃ raised, (body.block host captured texts).2.Fails w raised ∧
        failure = .fault ((Origin.filter (body.block host captured texts).1).fault raised) := by
  cases body <;> simp only [callTexts, Run.fails_wrap, ← Origin.wrapped_eq] <;> rfl

end Blocks

/-! ## Evaluation -/

namespace Evaluator

variable (ev : Evaluator σ) (c : Context)

/-- An argument of a call. -/
def evaluateArgument (a : Expr) : Run σ Value := do ev.argument a (← ev.evaluate c a)

theorem evaluateArguments_eq (l : List Expr) :
    ev.evaluateArguments c l = Run.each (ev.evaluateArgument c) l := by
  induction l with
  | nil => simp only [evaluateArguments, Run.each]
  | cons a rest ih => simp only [evaluateArguments, Run.each, ih, evaluateArgument, bind_assoc]

theorem evaluate_call (f a : Expr) (rest : List Expr) :
    ev.evaluate c (.call f a rest) = (do
      let (filter, captured) ← callee f (← ev.evaluate c f)
      let values ← Run.each (ev.evaluateArgument c) (a :: rest)
      (filter.apply ev.host captured values).wrap (.filterFailed f.text)) := by
  simp only [evaluate, evaluateArguments_eq, Run.each, evaluateArgument, bind_assoc, pure_bind]

end Evaluator

/-! ## How tasks fail -/

/-- The renderable of the host that a value is, by its name and with what it has captured. -/
def Value.script? : Value → Option (String × List Value)
  | .deferred name captured | .custom _ name captured => some (name, captured)
  | _ => none

/-- A node that is a tag. -/
def Node.tag? : Node → Option (Head × Form)
  | .text _ => none
  | .variableTag head escaped => some (head, .variableTag escaped)
  | .sectionTag head inverted children inner => some (head, .sectionTag inverted children inner)

abbrev Engine.evaluator (e : Engine σ) : Evaluator σ := ⟨e.host, e.policy⟩

namespace Task

/-- A value as a renderable has it rendered for its tag. -/
def rendered (depth : Nat) (tag : Tag) (v : Value) (c : Context) : Task :=
  if tag.isSection then .sectionTag depth tag v c else .value depth tag v c

/-- The value of a tag. -/
def ofTag (depth : Nat) (tag : Tag) (v : Value) (c : Context) : Task :=
  if tag.isSection then .sectionTag depth tag v c else .variableTag depth tag v c

/-- What a script asks for next. -/
def ofRequest (depth : Nat) (tag : Tag) : Script σ → Option Task
  | .content c _ => if tag.isSection then some (.nodes depth tag.children c) else none
  | .value v c _ => some (rendered depth tag v c)
  | .template t c _ => some (.nodes depth t c)
  | .done _ | .fail _ | .escape .. | .state _ | .outside .. => none

/-- The task fails in this world with this failure. -/
def Fails (e : Engine σ) (w : World σ) (failure : Failure) : Task → Prop
  | .nodes depth t c => (e.renderNodes depth t c).Fails w failure
  | .visit depth head form c => (e.visit head form c (e.renderTag depth c)).Fails w failure
  | .variableTag depth tag v c => (e.renderVariable depth tag v c).Fails w failure
  | .sectionTag depth tag v c => (e.renderSection depth tag v c).Fails w failure
  | .item depth tag v c => (e.renderItem depth tag v c).Fails w failure
  | .value depth tag v c => (e.renderValue depth tag v c).Fails w failure
  | .evaluate c x => (e.evaluator.evaluate c x).Fails w failure

/-- A failure as it leaves the task: tags give it a place, and renderables wrap errors. -/
def onward : Task → Failure → Failure
  | .visit _ head _ _ => Failure.located head.location
  | .value _ _ v _ => if v.isRenderable then Failure.wrapped (.renderingFailed v.kind) else id
  | .nodes .. | .variableTag .. | .sectionTag .. | .item .. | .evaluate .. => id

/-- The tag, if the task is to visit one. -/
def head? : Task → Option Head
  | .visit _ head _ _ => some head
  | .nodes .. | .variableTag .. | .sectionTag .. | .item .. | .value .. | .evaluate .. => none

end Task

namespace Engine

open Run (Comes ComesToItem ComesToEnd)

/-- The first task comes to enter the second one: what it does before that ends with values. -/
inductive Enters (e : Engine σ) : Task → World σ → Task → World σ → Prop
  | node {depth : Nat} {t : Template} {c : Context} {n : Node} {head : Head} {form : Form}
    {w w' : World σ} : Comes (e.renderNode depth c) t w n w' → n.tag? = some (head, form) →
    Enters e (.nodes (depth + 1) t c) w (.visit depth head form c) w'
  | expression {depth : Nat} {head : Head} {form : Form} {c : Context} {w : World σ} :
    Enters e (.visit depth head form c) w (.evaluate c head.expression) w.opened
  | ofTag {depth : Nat} {head : Head} {form : Form} {c : Context} {v : Value} {w w' : World σ} :
    e.resolve (w.newTag head form) c w.opened = (.done v, w') →
    Enters e (.visit depth head form c) w (.ofTag depth (w.newTag head form) v c)
      (w'.readied (w.newTag head form))
  | variableItem {depth : Nat} {tag : Tag} {v u : Value} {c : Context} {items : Items}
    {w w' : World σ} : v.items? = some items →
    ComesToItem (fun item => e.renderVariable depth tag item c) items w u w' →
    Enters e (.variableTag (depth + 1) tag v c) w (.variableTag depth tag u c) w'
  | variableValue {depth : Nat} {tag : Tag} {v : Value} {c : Context} {w : World σ} :
    v.items? = none → Enters e (.variableTag (depth + 1) tag v c) w (.value depth tag v c) w
  | inverted {depth : Nat} {tag : Tag} {v : Value} {c : Context} {w : World σ} :
    tag.isInverted = true → v.truth = .ok false →
    Enters e (.sectionTag (depth + 1) tag v c) w (.nodes depth tag.children c) w
  | sectionItem {depth : Nat} {tag : Tag} {v u : Value} {c : Context} {items : Items}
    {w w' : World σ} : tag.isInverted = false → v.items? = some items →
    ComesToItem (fun item => e.renderItem depth tag item c) items w u w' →
    Enters e (.sectionTag (depth + 1) tag v c) w (.item depth tag u c) w'
  | sectionValue {depth : Nat} {tag : Tag} {v : Value} {c : Context} {w : World σ} :
    tag.isInverted = false → v.items? = none → v.truth = .ok true →
    Enters e (.sectionTag (depth + 1) tag v c) w (.item depth tag v c) w
  | itemValue {depth : Nat} {tag : Tag} {v : Value} {c : Context} {w : World σ} :
    v.isRenderable = true → Enters e (.item (depth + 1) tag v c) w (.value depth tag v c) w
  | itemNodes {depth : Nat} {tag : Tag} {v : Value} {c : Context} {w : World σ} :
    v.isRenderable = false →
    Enters e (.item (depth + 1) tag v c) w (.nodes depth tag.children (c.push v [])) w
  | valueItem {depth : Nat} {tag : Tag} {v u : Value} {c : Context} {items : Items}
    {w w' : World σ} : v.joinedItems? = some items →
    ComesToItem (fun item => e.renderValue depth tag item c) items w u w' →
    Enters e (.value (depth + 1) tag v c) w (.value depth tag u c) w'
  | request {depth : Nat} {tag : Tag} {v : Value} {name : String} {captured : List Value}
    {c : Context} {s : Script σ} {task : Task} {w w' : World σ} :
    v.script? = some (name, captured) →
    (e.host.script name captured tag c).ComesTo (e.handlersAt depth tag) w s w' →
    Task.ofRequest depth tag s = some task → Enters e (.value (depth + 1) tag v c) w task w'
  | answer {depth : Nat} {tag : Tag} {name : String} {captured : List Value} {c : Context}
    {u : Value} {w w' : World σ} :
    (e.host.script name captured tag c).run (e.handlersAt depth tag) w = (.done (.value u), w') →
    pair? u = none →
    Enters e (.value (depth + 1) tag (.deferred name captured) c) w (.value depth tag u c) w'
  | argument {depth : Nat} {tag : Tag} {body : Body TextFunction} {captured arguments : List Value}
    {a : Value} {c : Context} {w w' : World σ} :
    Comes ((e.handlersAt depth tag).value · c) arguments w a w' →
    Enters e (.value (depth + 1) tag (.pending body captured arguments) c) w
      (.rendered depth tag a c) w'
  | transformed {depth : Nat} {tag : Tag} {body : Body TextFunction}
    {captured arguments : List Value} {rs : List Rendering} {u u' : Value} {c : Context}
    {w w₁ w' : World σ} :
    Run.each ((e.handlersAt depth tag).value · c) arguments w = (.done rs, w₁) →
    body.callTexts e.host captured (rs.map (·.text)) w₁ = (.done u, w') →
    Engine.transformed rs u = .value u' →
    Enters e (.value (depth + 1) tag (.pending body captured arguments) c) w
      (.value depth tag u' c) w'
  | position {depth : Nat} {tag : Tag} {item key : Value} {index : Nat} {last : Bool} {c : Context}
    {w : World σ} : tag.isSection = true →
    Enters e (.value (depth + 1) tag (.eachItem item index last key) c) w
      (.nodes depth tag.children
        ((c.push (.mapping (Value.position index last key)) []).push item [])) w
  | positioned {depth : Nat} {tag : Tag} {item key : Value} {index : Nat} {last : Bool}
    {c : Context} {w : World σ} : tag.isSection = false →
    Enters e (.value (depth + 1) tag (.eachItem item index last key) c) w
      (.value depth tag item c) w
  | base {c : Context} {x : Expr} {key : String} {w : World σ} :
    Enters e (.evaluate c (.key x key)) w (.evaluate c x) w
  | callee {c : Context} {f a : Expr} {rest : List Expr} {w : World σ} :
    Enters e (.evaluate c (.call f a rest)) w (.evaluate c f) w
  | callArgument {c : Context} {f a x : Expr} {rest : List Expr} {v : Value}
    {filter : Filter × List Value} {w w₁ w₂ w' : World σ} :
    e.evaluator.evaluate c f w = (.done v, w₁) → Evaluator.callee f v w₁ = (.done filter, w₂) →
    Comes (e.evaluator.evaluateArgument c) (a :: rest) w₂ x w' →
    Enters e (.evaluate c (.call f a rest)) w (.evaluate c x) w'

/-- In the task itself, a function or a renderable of the host raises the failure. -/
inductive Raises (e : Engine σ) : Task → World σ → Origin → Failure → Prop
  | call {c : Context} {f a : Expr} {rest : List Expr} {v : Value} {filter : Filter}
    {captured arguments : List Value} {name : String} {block : Run σ Value} {failure : Failure}
    {w w₁ w₂ w₃ : World σ} :
    e.evaluator.evaluate c f w = (.done v, w₁) →
    Evaluator.callee f v w₁ = (.done (filter, captured), w₂) →
    Run.each (e.evaluator.evaluateArgument c) (a :: rest) w₂ = (.done arguments, w₃) →
    filter.block? e.host f.text captured arguments = some (name, block) →
    block.Fails w₃ failure → Raises e (.evaluate c (.call f a rest)) w (.filter name) failure
  | transformed {depth : Nat} {tag : Tag} {body : Body TextFunction}
    {captured arguments : List Value} {rs : List Rendering} {c : Context} {failure : Failure}
    {w w₁ : World σ} :
    Run.each ((e.handlersAt depth tag).value · c) arguments w = (.done rs, w₁) →
    (body.block e.host captured (rs.map (·.text))).2.Fails w₁ failure →
    Raises e (.value (depth + 1) tag (.pending body captured arguments) c) w
      (.filter (body.block e.host captured (rs.map (·.text))).1) failure
  | script {depth : Nat} {tag : Tag} {v : Value} {name : String} {captured : List Value}
    {c : Context} {failure : Failure} {w w' : World σ} :
    v.script? = some (name, captured) →
    (e.host.script name captured tag c).ComesTo (e.handlersAt depth tag) w (.fail failure) w' →
    Raises e (.value (depth + 1) tag v c) w (.renderable v.kind) failure

/-- In the task itself, going through a sequence comes to the failure that the sequence raises. -/
inductive Breaks (e : Engine σ) : Task → World σ → Failure → Prop
  | variableTag {depth : Nat} {tag : Tag} {v : Value} {c : Context} {items : Items}
    {failure : Failure} {w w' : World σ} : v.items? = some items →
    ComesToEnd (fun item => e.renderVariable depth tag item c) items w failure w' →
    Breaks e (.variableTag (depth + 1) tag v c) w failure
  | sectionTag {depth : Nat} {tag : Tag} {v : Value} {c : Context} {items : Items}
    {failure : Failure} {w w' : World σ} : tag.isInverted = false → v.items? = some items →
    ComesToEnd (fun item => e.renderItem depth tag item c) items w failure w' →
    Breaks e (.sectionTag (depth + 1) tag v c) w failure
  | value {depth : Nat} {tag : Tag} {v : Value} {c : Context} {items : Items}
    {failure : Failure} {w w' : World σ} : v.joinedItems? = some items →
    ComesToEnd (fun item => e.renderValue depth tag item c) items w failure w' →
    Breaks e (.value (depth + 1) tag v c) w failure

/-- In the task itself, the engine gives up: a name or a key cannot be looked up or has no value,
something is called that is no filter, a value cannot be written or tell whether it is true, a
sequence breaks while it is gone through, or a renderable of a kind that the host defines answers
with no rendering. -/
inductive Refuses (e : Engine σ) : Task → World σ → Failure → Prop
  | name {c : Context} {n : String} {error : HostError} {w : World σ} :
    c.lookup n = .error error → Refuses e (.evaluate c (.name n)) w (.host error)
  | key {c : Context} {x : Expr} {key : String} {v : Value} {error : HostError} {w w' : World σ} :
    e.evaluator.evaluate c x w = (.done v, w') → v.lookup key = .error error →
    Refuses e (.evaluate c (.key x key)) w (.host error)
  | callee {c : Context} {f a : Expr} {rest : List Expr} {v : Value} {failure : Failure}
    {w w' : World σ} : e.evaluator.evaluate c f w = (.done v, w') →
    (Evaluator.callee f v : Run σ _).Fails w' failure →
    Refuses e (.evaluate c (.call f a rest)) w failure
  | argument {c : Context} {f a x : Expr} {rest : List Expr} {v u : Value}
    {filter : Filter × List Value} {failure : Failure} {w w₁ w₂ w₃ w' : World σ} :
    e.evaluator.evaluate c f w = (.done v, w₁) → Evaluator.callee f v w₁ = (.done filter, w₂) →
    Comes (e.evaluator.evaluateArgument c) (a :: rest) w₂ x w₃ →
    e.evaluator.evaluate c x w₃ = (.done u, w') → (e.evaluator.argument x u).Fails w' failure →
    Refuses e (.evaluate c (.call f a rest)) w failure
  | unresolved {depth : Nat} {head : Head} {form : Form} {c : Context} {v : Value}
    {w w' : World σ} :
    e.evaluator.evaluate c head.expression w.opened = (.done v, w') →
    (v.isMissing && decide (e.policy = .fail)) = true →
    Refuses e (.visit depth head form c) w (.fault ⟨.unresolved head.expression.text, none⟩)
  | unwritable {depth : Nat} {tag : Tag} {v : Value} {c : Context} {failure : Failure}
    {w : World σ} : v.joinedItems? = none → v.isRenderable = false →
    (leaf v : Run σ Rendering).Fails w failure → Refuses e (.value (depth + 1) tag v c) w failure
  | truth {depth : Nat} {tag : Tag} {v : Value} {c : Context} {error : HostError} {w : World σ} :
    tag.isInverted = true ∨ v.items? = none → v.truth = .error error →
    Refuses e (.sectionTag (depth + 1) tag v c) w (.host error)
  | sequence {task : Task} {failure : Failure} {w : World σ} : Breaks e task w failure →
    Refuses e task w failure
  | answered {depth : Nat} {tag : Tag} {label name : String} {captured : List Value} {c : Context}
    {answer : Answer} {failure : Failure} {w w' : World σ} :
    (e.host.script name captured tag c).run (e.handlersAt depth tag) w = (.done answer, w') →
    (Engine.answered label answer : Run σ Rendering).Fails w' failure →
    Refuses e (.value (depth + 1) tag (.custom label name captured) c) w failure

end Engine

end Stencil
