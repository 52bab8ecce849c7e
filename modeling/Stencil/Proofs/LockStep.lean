-- Two runs in lock step: they agree in what they end with and in the world they leave, unless
-- the first one ends with a failure that is excused. Every way to put runs together keeps this,
-- so it is proved of the engine by a walk along its definitions.
import Stencil.Host

namespace Stencil

namespace Run

variable {σ α β : Type} {F : Failure → Prop}

/-! ## The relation -/

/-- The first run ends with an excused failure, or the runs agree. -/
def LockStep (F : Failure → Prop) (r s : Run σ α) : Prop :=
  ∀ w, (∃ e w', r w = (.failed e, w') ∧ F e) ∨ r w = s w

theorem LockStep.refl (r : Run σ α) : LockStep F r r := fun _ => .inr rfl

theorem lockStep_failWith (cause : Cause) (s : Run σ α) (h : F (.fault ⟨cause, none⟩)) :
    LockStep F (failWith cause) s := fun w => .inl ⟨_, w, rfl, h⟩

theorem LockStep.bind {r s : Run σ α} {f g : α → Run σ β} (h : LockStep F r s)
    (hf : ∀ a, LockStep F (f a) (g a)) : LockStep F (r >>= f) (s >>= g) := by
  intro w
  simp only [bind_apply]
  rcases h w with ⟨e, w', hr, he⟩ | hrs
  · exact .inl ⟨e, w', by rw [hr], he⟩
  · rw [hrs]
    rcases s w with ⟨a | e | _, w'⟩
    · exact hf a w'
    · exact .inr rfl
    · exact .inr rfl

/-! ## Failures on their way -/

/-- What becomes of a failure keeps the runs in lock step if what is excused stays excused. -/
theorem LockStep.onFailure {r s : Run σ α} {h : Failure → Run σ Failure} (hrs : LockStep F r s)
    (hF : ∀ e, F e → ∀ w, ∃ e' w', h e w = (.done e', w') ∧ F e') :
    LockStep F (r.onFailure h) (s.onFailure h) := by
  intro w
  rcases hrs w with ⟨e, w', hr, he⟩ | heq
  · obtain ⟨e', w'', hh, he'⟩ := hF e he w'
    refine .inl ⟨e', w'', ?_, he'⟩
    simp only [Run.onFailure, hr, bind_apply, hh, Run.fail]
  · right
    simp only [Run.onFailure, heq]

/-- Errors of the host are not excused, so wrapping them does not matter. -/
theorem LockStep.wrap {r s : Run σ α} {cause : HostError → Cause} (hrs : LockStep F r s)
    (hF : ∀ error, ¬ F (.host error)) : LockStep F (r.wrap cause) (s.wrap cause) := by
  refine hrs.onFailure ?_
  intro e he w
  cases e with
  | host error => exact absurd he (hF error)
  | fault f => exact ⟨.fault f, w, rfl, he⟩

/-! ## Going through items -/

theorem LockStep.each {f g : α → Run σ β} {l : List α} (h : ∀ a ∈ l, LockStep F (f a) (g a)) :
    LockStep F (Run.each f l) (Run.each g l) := by
  induction l with
  | nil => exact .refl _
  | cons a rest ih =>
    refine LockStep.bind (h a List.mem_cons_self) fun b => ?_
    exact LockStep.bind (ih fun a ha => h a (List.mem_cons_of_mem _ ha)) fun bs => .refl _

theorem LockStep.drain {f g : Value → Run σ β} (h : ∀ v, LockStep F (f v) (g v)) (id : Nat)
    (items : List Value) (ending : Option Failure) (bound : Nat) :
    LockStep F (Run.drain f id items ending bound) (Run.drain g id items ending bound) := by
  induction bound with
  | zero => exact .refl _
  | succ bound ih =>
    refine LockStep.bind (.refl _) fun next => ?_
    cases next with
    | ended => exact .refl _
    | raised failure => exact .refl _
    | item item =>
      exact LockStep.bind (h item) fun b => LockStep.bind ih fun bs => .refl _

theorem LockStep.eachItem {f g : Value → Run σ β} (h : ∀ v, LockStep F (f v) (g v))
    (items : Items) : LockStep F (Run.eachItem f items) (Run.eachItem g items) := by
  cases items with
  | fixed items => exact LockStep.each fun v _ => h v
  | stream id items ending => exact LockStep.drain h id items ending _

end Run

/-! ## Scripts -/

/-- Handlers whose answers keep in lock step, and which escape alike. -/
structure Script.Handlers.LockStep {σ : Type} (F : Failure → Prop) (h k : Handlers σ) : Prop where
  content : ∀ c, Run.LockStep F (h.content c) (k.content c)
  value : ∀ v c, Run.LockStep F (h.value v c) (k.value v c)
  template : ∀ t c, Run.LockStep F (h.template t c) (k.template t c)
  escape : h.escape = k.escape
  state : Run.LockStep F h.state k.state

/-- A script makes the same requests as long as the answers are the same. -/
theorem Script.lockStep_run {σ : Type} {F : Failure → Prop} {h k : Handlers σ}
    (hk : h.LockStep F k) (script : Script σ) : Run.LockStep F (script.run h) (script.run k) := by
  induction script with
  | done answer => exact .refl _
  | fail failure => exact .refl _
  | content c next ih => exact (hk.content c).bind ih
  | value v c next ih => exact (hk.value v c).bind ih
  | template t c next ih => exact (hk.template t c).bind ih
  | escape s next ih =>
    simp only [Script.run, hk.escape]
    exact ih _
  | state next ih => exact hk.state.bind ih
  | outside change next ih => exact Run.LockStep.bind (.refl _) ih

end Stencil
