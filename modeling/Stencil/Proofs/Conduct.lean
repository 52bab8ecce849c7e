-- What runs do to the world. A conduct says what may lie between the world before a run and the one
-- after it: whatever the run ends with, and where it ends with a value. Runs made of runs that obey
-- a conduct obey it too. Evaluating an expression does not touch the journal, so it obeys every
-- conduct.
import Stencil.Proofs.Raising

namespace Stencil

variable {σ : Type}

/-- What a run may do to the world: in any case, and where it ends with a value. Without a change of
the journal it may do anything. -/
structure Conduct (σ : Type) where
  any : World σ → World σ → Prop
  done : World σ → World σ → Prop
  still : ∀ {w w' : World σ}, w'.journal = w.journal → done w w'
  any_of_done : ∀ {w w' : World σ}, done w w' → any w w'
  trans : ∀ {w w₁ w' : World σ}, done w w₁ → any w₁ w' → any w w'
  done_trans : ∀ {w w₁ w' : World σ}, done w w₁ → done w₁ w' → done w w'

/-- Not to touch the journal. -/
def Conduct.quiet : Conduct σ where
  any w w' := w'.journal = w.journal
  done w w' := w'.journal = w.journal
  still := id
  any_of_done := id
  trans h h' := h'.trans h
  done_trans h h' := h'.trans h

namespace Conduct

theorem refl (p : Conduct σ) (w : World σ) : p.done w w := p.still rfl

end Conduct

namespace Run

variable {α β : Type} {p : Conduct σ} {w w' : World σ}

/-- The run keeps to the conduct in every world. -/
structure Obeys (p : Conduct σ) (r : Run σ α) : Prop where
  any : ∀ w, p.any w (r w).2
  done : ∀ {w w' : World σ} {a : α}, r w = (.done a, w') → p.done w w'

theorem Obeys.any_eq {r : Run σ α} (h : r.Obeys p) {end_ : Outcome α} (hr : r w = (end_, w')) :
    p.any w w' := by
  have any := h.any w
  rwa [hr] at any

/-- A run that leaves the journal as it is. -/
theorem obeys_of_still {r : Run σ α} (h : ∀ w, (r w).2.journal = w.journal) : r.Obeys p := by
  constructor
  · intro w
    exact p.any_of_done (p.still (h w))
  · intro w w' a hr
    have still := h w
    rw [hr] at still
    exact p.still still

theorem obeys_pure (a : α) : (pure a : Run σ α).Obeys p := obeys_of_still fun _ => rfl

theorem obeys_fail (e : Failure) : (fail e : Run σ α).Obeys p := obeys_of_still fun _ => rfl

theorem obeys_exhaust : (exhaust : Run σ α).Obeys p := obeys_of_still fun _ => rfl

theorem obeys_outside (f : Outside σ → α × Outside σ) : (outside f).Obeys p :=
  obeys_of_still fun _ => rfl

theorem obeys_ofExcept (x : Except HostError α) : (ofExcept x : Run σ α).Obeys p := by
  cases x with
  | ok a => exact obeys_pure a
  | error e => exact obeys_fail _

theorem Obeys.bind {r : Run σ α} {f : α → Run σ β} (hr : r.Obeys p) (hf : ∀ a, (f a).Obeys p) :
    (r >>= f).Obeys p := by
  constructor
  · intro w
    rw [bind_apply]
    rcases h : r w with ⟨a | e | _, v⟩
    · exact p.trans (hr.done h) ((hf a).any v)
    · exact hr.any_eq h
    · exact hr.any_eq h
  · intro w w' b h
    obtain ⟨a, v, first, second⟩ := bind_eq_done.1 h
    exact p.done_trans (hr.done first) ((hf a).done second)

theorem Obeys.map {r : Run σ α} (hr : r.Obeys p) (f : α → β) :
    (do return f (← r) : Run σ β).Obeys p :=
  hr.bind fun a => obeys_pure (f a)

theorem Obeys.wrap {r : Run σ α} (hr : r.Obeys p) (cause : HostError → Cause) :
    (r.wrap cause).Obeys p := by
  constructor
  · intro w
    have after : (r.wrap cause w).2 = (r w).2 := by
      unfold Run.wrap onFailure
      rcases r w with ⟨a | e | _, v⟩
      · rfl
      · cases e <;> rfl
      · rfl
    rw [after]
    exact hr.any w
  · intro w w' a h
    exact hr.done (onFailure_eq_done.1 h)

/-! ## Going through items -/

theorem obeys_each {f : α → Run σ β} (h : ∀ a, (f a).Obeys p) (l : List α) :
    (each f l).Obeys p := by
  induction l with
  | nil => exact obeys_pure _
  | cons a rest ih => exact (h a).bind fun b => ih.map _

theorem obeys_drain {f : Value → Run σ β} (h : ∀ v, (f v).Obeys p) (id : Nat)
    (items : List Value) (ending : Option Failure) (bound : Nat) :
    (drain f id items ending bound).Obeys p := by
  induction bound with
  | zero => exact obeys_pure _
  | succ bound ih =>
    refine (obeys_outside _).bind fun next => ?_
    cases next with
    | ended => exact obeys_pure _
    | raised failure => exact obeys_fail failure
    | item item => exact (h item).bind fun b => ih.map _

theorem obeys_eachItem {f : Value → Run σ β} (h : ∀ v, (f v).Obeys p) (items : Items) :
    (eachItem f items).Obeys p := by
  cases items with
  | fixed items => exact obeys_each h items
  | stream id items ending => exact obeys_drain h id items ending _

/-- What happens before going through the elements comes to one of them. -/
theorem Comes.done {f : α → Run σ β} {l : List α} {a : α} (comes : Comes f l w a w')
    (h : ∀ a, (f a).Obeys p) : p.done w w' := by
  induction comes with
  | here => exact p.refl _
  | later ended _ ih => exact p.done_trans ((h _).done ended) ih

theorem Draws.done {f : Value → Run σ β} {id bound : Nat} {items : List Value}
    {ending : Option Failure} {next : Draw} (draws : Draws f id items ending bound w next w')
    (h : ∀ v, (f v).Obeys p) : p.done w w' := by
  induction draws with
  | here pull => exact p.still rfl
  | @later _ w w₁ w' item _ o b pull ended _ ih =>
    have drawn : p.done w { w with outside := o } := p.still rfl
    exact p.done_trans drawn (p.done_trans ((h item).done ended) ih)

theorem ComesToItem.done {f : Value → Run σ β} {items : Items} {v : Value}
    (comes : ComesToItem f items w v w') (h : ∀ v, (f v).Obeys p) : p.done w w' := by
  cases items with
  | fixed items => exact Comes.done comes h
  | stream id items ending => exact Draws.done comes h

theorem ComesToEnd.done {f : Value → Run σ β} {items : Items} {failure : Failure}
    (comes : ComesToEnd f items w failure w') (h : ∀ v, (f v).Obeys p) : p.done w w' := by
  cases items with
  | fixed items => exact comes.elim
  | stream id items ending => exact Draws.done comes h

end Run

/-! ## Scripts -/

/-- The handlers meet every request with a run that obeys the conduct. -/
structure Script.Handlers.Obey (p : Conduct σ) (h : Script.Handlers σ) : Prop where
  content : ∀ c, (h.content c).Obeys p
  value : ∀ v c, (h.value v c).Obeys p
  template : ∀ t c, (h.template t c).Obeys p
  state : h.state.Obeys p

namespace Script

variable {p : Conduct σ} {h : Handlers σ}

theorem obeys_run (obey : h.Obey p) (s : Script σ) : (s.run h).Obeys p := by
  induction s with
  | done answer => exact Run.obeys_pure answer
  | fail failure => exact Run.obeys_fail failure
  | content c next ih => exact (obey.content c).bind ih
  | value v c next ih => exact (obey.value v c).bind ih
  | template t c next ih => exact (obey.template t c).bind ih
  | escape text next ih => exact ih (h.escape text)
  | state next ih => exact obey.state.bind ih
  | outside change next ih => exact (Run.obeys_outside _).bind ih

theorem ComesTo.done {s s' : Script σ} {w w' : World σ} (comes : s.ComesTo h w s' w')
    (obey : h.Obey p) : p.done w w' := by
  induction comes with
  | here => exact p.refl _
  | content answered _ ih => exact p.done_trans ((obey.content _).done answered) ih
  | value answered _ ih => exact p.done_trans ((obey.value _ _).done answered) ih
  | template answered _ ih => exact p.done_trans ((obey.template _ _).done answered) ih
  | escape _ ih => exact ih
  | state answered _ ih => exact p.done_trans (obey.state.done answered) ih
  | @outside change _ _ w _ _ ih =>
    have changed : p.done w { w with outside := change w.outside } := p.still rfl
    exact p.done_trans changed ih

end Script

/-! ## Functions of the host, and expressions -/

section

variable {p : Conduct σ} {host : Host σ}

theorem Host.obeys_run (function : String) (captured arguments : List Value) :
    (host.run function captured arguments).Obeys p := by
  refine Run.obeys_of_still fun w => ?_
  unfold Host.run
  split <;> rfl

theorem Body.obeys_callTexts (body : Body TextFunction) (captured : List Value)
    (texts : List Passage) : (body.callTexts host captured texts).Obeys p := by
  cases body with
  | library function => exact (Run.obeys_ofExcept _).wrap _
  | host name => exact (Host.obeys_run name captured _).wrap _

theorem Library.obeys_each (v : Value) : (Library.each v : Run σ _).Obeys p := by
  unfold Library.each
  split
  · exact Run.obeys_pure _
  · exact Run.obeys_pure _
  · exact Run.obeys_pure _
  · split
    · exact (Run.obeys_eachItem Run.obeys_pure _).map _
    · exact Run.obeys_fail _

theorem ValueFunction.obeys_call (f : ValueFunction) (arguments : List Value) :
    (f.call arguments : Run σ _).Obeys p := by
  unfold ValueFunction.call
  split
  · unfold ValueFunction.apply
    split
    · cases f with
      | isEmpty => exact Run.obeys_pure _
      | isBlank => exact Run.obeys_pure _
      | each => exact (Library.obeys_each _).map _
    · exact Run.obeys_fail _
  · exact Run.obeys_fail _
  · exact Run.obeys_fail _

theorem Filter.obeys_apply (f : Filter) (captured arguments : List Value) :
    (f.apply host captured arguments).Obeys p := by
  cases f with
  | generic body =>
    cases body with
    | library function => exact (function.obeys_call arguments).wrap _
    | host name => exact (Host.obeys_run name captured arguments).wrap _
  | textual body => exact Run.obeys_pure _
  | variadic name => exact (Host.obeys_run name captured _).wrap _
  | custom label name => exact Host.obeys_run name captured arguments

end

namespace Evaluator

variable {p : Conduct σ} (ev : Evaluator σ) (c : Context)

theorem obeys_argument (x : Expr) (v : Value) : (ev.argument x v).Obeys p := by
  unfold argument
  split
  · split
    · exact Run.obeys_pure _
    · exact Run.obeys_fail _
  · exact Run.obeys_pure _

theorem obeys_callee (f : Expr) (v : Value) : (callee f v : Run σ _).Obeys p := by
  cases v with
  | filter g captured => exact Run.obeys_pure _
  | _ => exact Run.obeys_fail _

mutual

/-- Evaluating an expression does not touch the journal. -/
theorem obeys_evaluate : ∀ x : Expr, (ev.evaluate c x).Obeys p
  | .name n => by
    rw [evaluate]
    exact Run.obeys_ofExcept _
  | .top => by
    rw [evaluate]
    exact Run.obeys_pure _
  | .key base k => by
    rw [evaluate]
    exact (obeys_evaluate base).bind fun v => Run.obeys_ofExcept _
  | .call f a rest => by
    rw [evaluate]
    refine (obeys_evaluate f).bind fun v => (obeys_callee f v).bind fun filter => ?_
    refine (obeys_evaluate a).bind fun u => (ev.obeys_argument a u).bind fun first => ?_
    exact (obeys_evaluateArguments rest).bind fun others => (filter.1.obeys_apply _ _).wrap _

theorem obeys_evaluateArguments : ∀ l : List Expr, (ev.evaluateArguments c l).Obeys p
  | [] => by
    rw [evaluateArguments]
    exact Run.obeys_pure _
  | a :: rest => by
    rw [evaluateArguments]
    refine (obeys_evaluate a).bind fun u => (ev.obeys_argument a u).bind fun first => ?_
    exact (obeys_evaluateArguments rest).map _

end

end Evaluator

theorem Engine.obeys_resolve {p : Conduct σ} (e : Engine σ) (tag : Tag) (c : Context) :
    (e.resolve tag c).Obeys p := by
  unfold Engine.resolve
  refine (e.evaluator.obeys_evaluate c _).bind fun v => ?_
  split
  · exact Run.obeys_fail _
  · exact Run.obeys_pure _

end Stencil
