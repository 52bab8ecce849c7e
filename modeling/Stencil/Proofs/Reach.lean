-- What a rendering comes to. Where a set of values encloses what its members lead to, all tasks of
-- a rendering are about values of the set. A renderable makes faults of all errors inside it, so an
-- error of the host leaves a rendering if and only if the engine gives up with it in a task that no
-- renderable stands around; there it asks values for keys, goes through them or writes them.
import Stencil.Proofs.Enclosures
import Stencil.Proofs.Raising

namespace Stencil

variable {σ : Type} {P : Value → Prop} {K : String → Prop}

/-! ## Renderables -/

/-- Whatever the script asks for or answers is in the set and has no other keys. -/
def Script.Hands (P : Value → Prop) (K : String → Prop) : Script σ → Prop
  | .done answer => ∀ v, answer = .value v → P v
  | .fail _ => True
  | .content c next => c.Holds P ∧ ∀ r, (next r).Hands P K
  | .value v c next => (P v ∧ c.Holds P) ∧ ∀ r, (next r).Hands P K
  | .template t c next => ((∀ key, t.HasKey key → K key) ∧ c.Holds P) ∧ ∀ s, (next s).Hands P K
  | .escape _ next => ∀ s, (next s).Hands P K
  | .state next => ∀ s, (next s).Hands P K
  | .outside _ next => ∀ o, (next o).Hands P K

/-- Renderables of the set lead to nothing else. -/
structure Host.EnclosesRenderables (host : Host σ) (P : Value → Prop) (K : String → Prop) :
    Prop where
  position : ∀ {item index last key}, P (.eachItem item index last key) →
    P item ∧ P (.mapping (Value.position index last key))
  argument : ∀ {body captured arguments}, P (.pending body captured arguments) →
    ∀ a ∈ arguments, P a
  transformed : ∀ {body captured arguments texts}, P (.pending body captured arguments) →
    Run.Gives P (Body.callTexts host body captured texts)
  script : ∀ (tag : Tag) {v : Value} {name captured c}, P v → v.script? = some (name, captured) →
    c.Holds P → (host.script name captured tag c).Hands P K

namespace Script

variable {h : Handlers σ} {s s' : Script σ} {w w' : World σ}

theorem ComesTo.hands (comes : s.ComesTo h w s' w') (hands : s.Hands P K) : s'.Hands P K := by
  induction comes with
  | here => exact hands
  | content _ _ ih | value _ _ ih | template _ _ ih => exact ih (hands.2 _)
  | escape _ ih | state _ _ ih | outside _ ih => exact ih (hands _)

theorem Hands.gives_run (hands : s.Hands P K) :
    Run.Gives (fun answer => ∀ v, answer = .value v → P v) (s.run h) := by
  induction s with
  | done answer => exact Run.ends_pure hands
  | fail failure => exact Run.ends_fail trivial
  | content c next ih | value v c next ih | template t c next ih =>
    exact (Run.gives_any _).bind_any fun r => ih r (hands.2 r)
  | escape s next ih => exact ih _ (hands _)
  | state next ih => exact (Run.gives_any _).bind_any fun s => ih s (hands s)
  | outside change next ih => exact (Run.gives_any _).bind_any fun o => ih o (hands o)

end Script

/-! ## Tasks in a set -/

namespace Task

/-- The value that is rendered. -/
def value? : Task → Option Value
  | .variableTag _ _ v _ | .sectionTag _ _ v _ | .item _ _ v _ | .value _ _ v _ => some v
  | .nodes .. | .visit .. | .evaluate .. => none

/-- The task renders a value of the set in a context of values of the set, and no more keys stand in
what it renders and evaluates. -/
def Enclosed (P : Value → Prop) (K : String → Prop) : Task → Prop
  | .nodes _ t c => (∀ key, t.HasKey key → K key) ∧ c.Holds P
  | .visit _ head form c =>
    (∀ key, head.expression.HasKey key → K key) ∧
      (∀ id key, (Tag.mk id head form).children.HasKey key → K key) ∧ c.Holds P
  | .variableTag _ tag v c | .sectionTag _ tag v c | .item _ tag v c | .value _ tag v c =>
    P v ∧ (∀ key, tag.children.HasKey key → K key) ∧ c.Holds P
  | .evaluate c x => (∀ key, x.HasKey key → K key) ∧ c.Holds P

variable {depth : Nat} {tag : Tag} {v : Value} {c : Context} {task : Task}

theorem Enclosed.value (h : task.Enclosed P K) (is : task.value? = some v) : P v := by
  cases task with
  | nodes | visit | evaluate => cases is
  | variableTag | sectionTag | item | value =>
    cases is
    exact h.1

theorem enclosed_ofTag (h : P v ∧ (∀ key, tag.children.HasKey key → K key) ∧ c.Holds P) :
    (ofTag depth tag v c).Enclosed P K := by
  unfold ofTag
  split <;> exact h

theorem enclosed_rendered (h : P v ∧ (∀ key, tag.children.HasKey key → K key) ∧ c.Holds P) :
    (rendered depth tag v c).Enclosed P K := by
  unfold rendered
  split <;> exact h

/-- The task renders a renderable, which makes faults of all errors inside it. -/
def wraps : Task → Bool
  | .value _ _ v _ => v.isRenderable
  | .nodes .. | .visit .. | .variableTag .. | .sectionTag .. | .item .. | .evaluate .. => false

theorem onward_host {error : HostError} (h : task.wraps = false) :
    task.onward (.host error) = .host error := by
  cases task with
  | value depth tag v c => exact Engine.onward_of_plain h
  | _ => rfl

theorem onward_eq_host {failure : Failure} {error : HostError}
    (h : task.onward failure = .host error) : task.wraps = false ∧ failure = .host error := by
  cases task with
  | value depth tag v c =>
    cases renderable : v.isRenderable with
    | false =>
      rw [Engine.onward_of_plain renderable] at h
      exact ⟨renderable, h⟩
    | true =>
      simp only [onward, renderable, if_true] at h
      cases failure <;> cases h
  | visit depth head form c =>
    cases failure with
    | fault f => cases h
    | host error' => exact ⟨rfl, h⟩
  | _ => exact ⟨rfl, h⟩

end Task

namespace Run

variable {β : Type} {w w' : World σ}

/-- What drawing from a stream comes to is one of its items, or the failure behind them. -/
theorem Draws.of {f : Value → Run σ β} {id : Nat} {items : List Value} {ending : Option Failure}
    {bound : Nat} {next : Draw} (h : Draws f id items ending bound w next w') :
    next.From items ending := by
  induction h with
  | @here _ w next o pull =>
    have given := w.outside.from_pull id items ending
    rwa [pull] at given
  | later _ _ _ ih => exact ih

theorem ComesToItem.mem {f : Value → Run σ β} {items : Items} {v : Value}
    (h : ComesToItem f items w v w') : v ∈ items.values := by
  cases items with
  | fixed items => exact Engine.mem_of_comes h
  | stream id items ending =>
    cases Draws.of h with
    | item mem => exact mem

theorem ComesToEnd.ending {f : Value → Run σ β} {items : Items} {failure : Failure}
    (h : ComesToEnd f items w failure w') : items.ending? = some failure := by
  cases items with
  | fixed items => exact h.elim
  | stream id items ending =>
    cases Draws.of h with
    | raised is => exact is

end Run

namespace Engine

open Run (Gives)

variable {e : Engine σ} {task task' : Task} {w w' : World σ} {heads : List Head}

theorem encloses_resolve (encloses : e.host.Encloses P K) {tag : Tag} {c : Context}
    (hc : c.Holds P) (keys : ∀ key, tag.head.expression.HasKey key → K key) :
    Gives P (e.resolve tag c) := by
  unfold resolve
  refine (Evaluator.encloses_evaluate encloses hc _ keys).bind fun v hv => ?_
  split
  · exact Run.ends_fail trivial
  · exact Run.ends_pure hv

theorem eq_of_transformed {rs : List Rendering} {u v : Value}
    (h : transformed rs u = .value v) : v = u := by
  cases u <;> cases h <;> rfl

/-- What is entered from a task in the set is in the set. Renderables matter only where one is
rendered. -/
theorem Enters.enclosed (h : e.Enters task w task' w') (encloses : e.host.Encloses P K)
    (renderables : task.wraps = true → e.host.EnclosesRenderables P K)
    (inside : task.Enclosed P K) : task'.Enclosed P K := by
  cases h with
  | @node _ t c n head form _ _ comes is =>
    obtain ⟨keys, hc⟩ := inside
    have member := mem_of_comes comes
    cases n with
    | text s => cases is
    | variableTag head escaped =>
      cases is
      have head : ∀ key, head.expression.HasKey key → K key :=
        fun key h => keys key ⟨_, Template.mem_heads member rfl, h⟩
      have none : ∀ key, ¬ Template.HasKey [] key := fun key ⟨_, h, _⟩ => nomatch h
      exact ⟨head, fun _ key h => absurd h (none key), hc⟩
    | sectionTag head inverted children inner =>
      cases is
      have head : ∀ key, head.expression.HasKey key → K key :=
        fun key h => keys key ⟨_, Template.mem_heads member rfl, h⟩
      have within : ∀ key, Template.HasKey children key → K key := fun key ⟨found, is, h⟩ =>
        keys key ⟨found, Template.heads_children_subset member is, h⟩
      exact ⟨head, fun _ => within, hc⟩
  | expression => exact ⟨inside.1, inside.2.2⟩
  | ofTag resolved =>
    obtain ⟨keys, children, hc⟩ := inside
    exact Task.enclosed_ofTag ⟨(encloses_resolve encloses hc keys).done resolved, children _, hc⟩
  | variableItem items comes | sectionItem _ items comes =>
    exact ⟨encloses.item inside.1 items comes.mem, inside.2⟩
  | valueItem items comes =>
    exact ⟨encloses.item inside.1 (Value.items?_of_joined items) comes.mem, inside.2⟩
  | variableValue | sectionValue | itemValue => exact inside
  | inverted => exact inside.2
  | itemNodes => exact ⟨inside.2.1, inside.2.2.push inside.1⟩
  | @request _ tag v name captured c s _ _ _ script comes asked =>
    have renderable : v.isRenderable = true := by cases v <;> cases script <;> rfl
    have hands := comes.hands ((renderables renderable).script tag inside.1 script inside.2.2)
    cases s with
    | content d next =>
      simp only [Task.ofRequest, Option.ite_none_right_eq_some, Option.some.injEq] at asked
      obtain ⟨_, rfl⟩ := asked
      exact ⟨inside.2.1, hands.1⟩
    | value u d next =>
      cases asked
      exact Task.enclosed_rendered ⟨hands.1.1, inside.2.1, hands.1.2⟩
    | template t d next =>
      cases asked
      exact hands.1
    | _ => cases asked
  | @answer _ tag name captured c u _ _ done =>
    have hands := (renderables rfl).script tag inside.1 rfl inside.2.2
    exact ⟨hands.gives_run.done done _ rfl, inside.2⟩
  | argument comes =>
    have member := (renderables rfl).argument inside.1 _ (mem_of_comes comes)
    exact Task.enclosed_rendered ⟨member, inside.2⟩
  | transformed _ called value =>
    obtain rfl := eq_of_transformed value
    exact ⟨((renderables rfl).transformed inside.1).done called, inside.2⟩
  | position =>
    obtain ⟨item, position⟩ := (renderables rfl).position inside.1
    exact ⟨inside.2.1, (inside.2.2.push position).push item⟩
  | positioned => exact ⟨((renderables rfl).position inside.1).1, inside.2⟩
  | @base _ x key =>
    have part : x ∈ (Expr.key x key).parts := List.mem_cons_of_mem _ x.self_mem_parts
    exact ⟨fun key h => inside.1 key (h.of_part part), inside.2⟩
  | callee => exact ⟨fun key h => inside.1 key (h.of_part Expr.callee_mem_parts), inside.2⟩
  | @callArgument _ f _ _ _ _ _ _ _ _ _ _ _ comes =>
    have part := Expr.argument_mem_parts (f := f) (mem_of_comes comes)
    exact ⟨fun key h => inside.1 key (h.of_part part), inside.2⟩

/-- What holds of a task, and of whatever is entered from a task of which it holds, holds wherever
the engine comes from there. -/
theorem Descends.holds {I : Task → Prop}
    (step : ∀ task task' w w', I task → e.Enters task w task' w' → I task')
    (h : e.Descends task w heads task' w') (start : I task) : I task' := by
  induction h with
  | here => exact start
  | enter enters _ ih => exact ih (step _ _ _ _ start enters)

theorem Descends.enclosed (h : e.Descends task w heads task' w')
    (encloses : e.host.Encloses P K) (renderables : e.host.EnclosesRenderables P K)
    (inside : task.Enclosed P K) : task'.Enclosed P K :=
  h.holds (fun _ _ _ _ inside enters => enters.enclosed encloses (fun _ => renderables) inside)
    inside

/-! ## Outside of renderables -/

/-- From the first task the engine comes to the second one, and renders no renderable on the way. -/
inductive Exposes (e : Engine σ) : Task → World σ → Task → World σ → Prop
  | here {task : Task} {w : World σ} : Exposes e task w task w
  | enter {task inner task' : Task} {w w₁ w' : World σ} : task.wraps = false →
    e.Enters task w inner w₁ → Exposes e inner w₁ task' w' → Exposes e task w task' w'

theorem Exposes.enclosed (h : e.Exposes task w task' w') (encloses : e.host.Encloses P K)
    (inside : task.Enclosed P K) : task'.Enclosed P K := by
  induction h with
  | here => exact inside
  | enter plain enters _ ih =>
    exact ih (enters.enclosed encloses (fun wraps => nomatch plain.symm.trans wraps) inside)

theorem Exposes.fails (h : e.Exposes task w task' w') {error : HostError}
    (fails : task'.Fails e w' (.host error)) : task.Fails e w (.host error) := by
  induction h with
  | here => exact fails
  | enter plain enters _ ih => exact Task.onward_host plain ▸ enters.fails (ih fails)

theorem eq_of_fails {failure failure' : Failure} (h : task.Fails e w failure)
    (h' : task.Fails e w failure') : failure = failure' := by
  cases task <;> exact Outcome.failed.inj (h.symm.trans h')

/-- An error of the host that leaves a task comes from a task outside of all renderables, in which
the engine gives up with it. -/
theorem exists_exposed {task : Task} {w : World σ} {error : HostError}
    (fails : task.Fails e w (.host error)) :
    ∃ task' w', e.Exposes task w task' w' ∧ task'.wraps = false ∧
      e.Refuses task' w' (.host error) := by
  rcases hasReason_of_fails fails with
    ⟨inner, w₁, failure, enters, stopped⟩ | ⟨o, raised, raises⟩ | ⟨refused, refuses⟩
  · obtain ⟨plain, rfl⟩ := Task.onward_eq_host (eq_of_fails (enters.fails stopped) fails)
    obtain ⟨task', w', exposes, refuses⟩ := exists_exposed stopped
    exact ⟨task', w', .enter plain enters exposes, refuses⟩
  · cases eq_of_fails raises.fails fails
  · obtain ⟨plain, rfl⟩ := Task.onward_eq_host (eq_of_fails refuses.fails fails)
    exact ⟨task, w, .here, plain, refuses⟩
termination_by task.rank
decreasing_by exact enters.rank_lt

/-- An error of the host leaves a task if and only if the engine gives up with it in a task outside
of all renderables. -/
theorem fails_host_iff {error : HostError} : task.Fails e w (.host error) ↔
    ∃ task' w', e.Exposes task w task' w' ∧ task'.wraps = false ∧
      e.Refuses task' w' (.host error) := by
  constructor
  · exact exists_exposed
  · rintro ⟨task', w', exposes, plain, refuses⟩
    exact exposes.fails (Task.onward_host plain ▸ refuses.fails)

/-! ## Values outside of renderables -/

/-- From the task the engine comes, outside of renderables, to ask the value for the key: it is the
value of a scope in which a name is looked up, or the base of a key. -/
inductive Asks (e : Engine σ) (start : Task) (w : World σ) : Value → String → Prop
  | scope {d : Context} {name : String} {s : Scope} {w' : World σ} :
    e.Exposes start w (.evaluate d (.name name)) w' → s ∈ d.scopes → Asks e start w s.value name
  | base {d : Context} {x : Expr} {key : String} {v : Value} {w₁ w₂ : World σ} :
    e.Exposes start w (.evaluate d (.key x key)) w₁ →
    e.evaluator.evaluate d x w₁ = (.done v, w₂) → Asks e start w v key

/-- From the task the engine comes, outside of renderables, to render the value. -/
def Renders (e : Engine σ) (start : Task) (w : World σ) (v : Value) : Prop :=
  ∃ task w', e.Exposes start w task w' ∧ task.value? = some v

/-- The same, and the rendering is that of the value by itself: its text, or those of its items. -/
def WritesOut (e : Engine σ) (start : Task) (w : World σ) (v : Value) : Prop :=
  ∃ depth tag c w', e.Exposes start w (.value depth tag v c) w'

/-- From the task the engine comes, outside of renderables, to ask the value whether it is true: it
is that of an inverted section, or that of a section and no sequence. -/
def Weighs (e : Engine σ) (start : Task) (w : World σ) (v : Value) : Prop :=
  ∃ depth tag c w', e.Exposes start w (.sectionTag depth tag v c) w' ∧
    (tag.isInverted = true ∨ v.items? = none)

variable {start : Task} {v : Value}

theorem Asks.enclosed {key : String} (h : e.Asks start w v key) (encloses : e.host.Encloses P K)
    (inside : start.Enclosed P K) : P v ∧ K key := by
  cases h with
  | scope exposes hs =>
    obtain ⟨keys, hd⟩ := exposes.enclosed encloses inside
    exact ⟨(hd _ hs).1, keys _ (.inl (Expr.self_mem_parts _))⟩
  | @base d x _ _ _ _ exposes found =>
    obtain ⟨keys, hd⟩ := exposes.enclosed encloses inside
    have part : x ∈ (Expr.key x key).parts := List.mem_cons_of_mem _ x.self_mem_parts
    have within := fun k (h : x.HasKey k) => keys k (h.of_part part)
    exact ⟨(Evaluator.encloses_evaluate encloses hd x within).done found,
      keys _ (.inr ⟨x, Expr.self_mem_parts _⟩)⟩

theorem WritesOut.renders (h : e.WritesOut start w v) : e.Renders start w v := by
  obtain ⟨depth, tag, c, w', exposes⟩ := h
  exact ⟨_, w', exposes, rfl⟩

theorem Weighs.renders (h : e.Weighs start w v) : e.Renders start w v := by
  obtain ⟨depth, tag, c, w', exposes, _⟩ := h
  exact ⟨_, w', exposes, rfl⟩

theorem Renders.enclosed (h : e.Renders start w v) (encloses : e.host.Encloses P K)
    (inside : start.Enclosed P K) : P v := by
  obtain ⟨task, w', exposes, is⟩ := h
  exact (exposes.enclosed encloses inside).value is

end Engine

end Stencil
