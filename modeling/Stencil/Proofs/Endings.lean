-- What runs end with: one condition on the values and one on the failures. A run that is nested too
-- deeply ends with neither, and says nothing.
import Stencil.Run

namespace Stencil

/-- The items of a sequence, whether they are handed out once or more often. -/
def Items.values : Items → List Value
  | .fixed items => items
  | .stream _ items _ => items

/-- The failure that a stream raises behind its last item, if it raises one. -/
def Items.ending? : Items → Option Failure
  | .fixed _ => none
  | .stream _ _ ending => ending

/-- What a stream with these items and this failure behind them can give. -/
inductive Draw.From (items : List Value) (ending : Option Failure) : Draw → Prop
  | item {item : Value} : item ∈ items → From items ending (.item item)
  | raised {failure : Failure} : ending = some failure → From items ending (.raised failure)
  | ended : From items ending .ended

theorem Draw.from_after (pulled : Nat) (items : List Value) (ending : Option Failure) :
    (after pulled items ending).From items ending := by
  unfold after
  split
  · exact .item (List.mem_of_getElem? ‹_›)
  · split
    · exact .raised rfl
    · exact .ended
  · exact .ended

theorem Outside.from_pull {σ : Type} (o : Outside σ) (id : Nat) (items : List Value)
    (ending : Option Failure) : (o.pull id items ending).1.From items ending := by
  unfold pull
  split
  · exact .ended
  · exact Draw.from_after _ items ending

namespace Run

variable {σ α β : Type} {P : α → Prop} {Q : Failure → Prop}

/-- Every value that the run ends with satisfies `P`, and every failure `Q`. -/
def Ends (P : α → Prop) (Q : Failure → Prop) (r : Run σ α) : Prop :=
  ∀ w, match (r w).1 with
    | .done a => P a
    | .failed e => Q e
    | .exhausted => True

/-- Every value that the run ends with satisfies `P`. -/
abbrev Gives (P : α → Prop) (r : Run σ α) : Prop := Ends P (fun _ => True) r

/-! ## Values and failures -/

theorem Ends.done {r : Run σ α} {w w' : World σ} {a : α} (h : Ends P Q r)
    (hr : r w = (.done a, w')) : P a := by
  have := h w
  rwa [hr] at this

theorem Ends.failed {r : Run σ α} {w w' : World σ} {failure : Failure} (h : Ends P Q r)
    (hr : r w = (.failed failure, w')) : Q failure := by
  have := h w
  rwa [hr] at this

theorem gives_any (r : Run σ α) : Gives (fun _ => True) r := by
  intro w
  split <;> trivial

theorem ends_pure {a : α} (h : P a) : Ends P Q (pure a : Run σ α) := fun _ => h

theorem ends_fail {e : Failure} (h : Q e) : Ends P Q (fail e : Run σ α) := fun _ => h

theorem ends_exhaust : Ends P Q (exhaust : Run σ α) := fun _ => trivial

theorem ends_ofExcept {x : Except HostError α} (ha : ∀ a, x = .ok a → P a)
    (he : ∀ e, x = .error e → Q (.host e)) : Ends P Q (ofExcept x : Run σ α) := by
  intro w
  cases x with
  | ok a => exact ha a rfl
  | error e => exact he e rfl

theorem Ends.bind {P' : β → Prop} {r : Run σ α} {f : α → Run σ β} (hr : Ends P Q r)
    (hf : ∀ a, P a → Ends P' Q (f a)) : Ends P' Q (r >>= f) := by
  intro w
  have h := hr w
  rw [bind_apply]
  rcases hw : r w with ⟨a | e | _, w'⟩ <;> rw [hw] at h
  · exact hf a h w'
  · exact h
  · trivial

/-- A step whose value does not matter. -/
theorem Ends.bind_any {P' : β → Prop} {r : Run σ α} {f : α → Run σ β}
    (hr : Ends (fun _ => True) Q r) (hf : ∀ a, Ends P' Q (f a)) : Ends P' Q (r >>= f) :=
  hr.bind fun a _ => hf a

theorem ends_onFailure {Q' : Failure → Prop} {r : Run σ α} {h : Failure → Run σ Failure}
    (hr : Ends P Q r) (hh : ∀ e, Q e → Ends Q' Q' (h e)) : Ends P Q' (r.onFailure h) := by
  intro w
  have hw := hr w
  unfold onFailure
  rcases hrw : r w with ⟨a | e | _, w'⟩ <;> rw [hrw] at hw
  · exact hw
  · exact Ends.bind (P := Q') (hh e hw) (fun e' he' => ends_fail he') w'
  · trivial

theorem gives_onFailure {r : Run σ α} {h : Failure → Run σ Failure} (hr : Gives P r) :
    Gives P (r.onFailure h) := by
  exact ends_onFailure hr fun e _ => gives_any (h e)

theorem gives_wrap {r : Run σ α} {cause : HostError → Cause} (hr : Gives P r) :
    Gives P (r.wrap cause) :=
  gives_onFailure hr

/-! ## Going through items -/

theorem Ends.cons {P : β → Prop} {r : Run σ β} {s : Run σ (List β)} (hr : Ends P Q r)
    (hs : Ends (fun bs => ∀ b ∈ bs, P b) Q s) :
    Ends (fun bs => ∀ b ∈ bs, P b) Q (r >>= fun b => s >>= fun bs => pure (b :: bs)) := by
  refine hr.bind fun b hb => hs.bind fun bs hbs => ends_pure ?_
  intro x hx
  rcases List.mem_cons.1 hx with rfl | hx
  · exact hb
  · exact hbs x hx

theorem ends_each {P : β → Prop} {f : α → Run σ β} {l : List α} (h : ∀ a ∈ l, Ends P Q (f a)) :
    Ends (fun bs => ∀ b ∈ bs, P b) Q (each f l) := by
  induction l with
  | nil => exact ends_pure (by simp)
  | cons a rest ih =>
    exact (h a List.mem_cons_self).cons (ih fun a ha => h a (List.mem_cons_of_mem _ ha))

theorem ends_pull (id : Nat) (items : List Value) (ending : Option Failure) :
    Ends (Draw.From items ending) Q (outside (·.pull id items ending) : Run σ Draw) :=
  fun w => w.outside.from_pull id items ending

theorem ends_drain {P : β → Prop} {f : Value → Run σ β} {id : Nat} {items : List Value}
    {ending : Option Failure} (h : ∀ v ∈ items, Ends P Q (f v))
    (raised : ∀ failure, ending = some failure → Q failure) (bound : Nat) :
    Ends (fun bs => ∀ b ∈ bs, P b) Q (drain f id items ending bound) := by
  induction bound with
  | zero => exact ends_pure (by simp)
  | succ bound ih =>
    refine (ends_pull id items ending).bind fun next hnext => ?_
    cases hnext with
    | item mem => exact (h _ mem).cons ih
    | raised end_ => exact ends_fail (raised _ end_)
    | ended => exact ends_pure (by simp)

theorem ends_eachItem {P : β → Prop} {f : Value → Run σ β} {items : Items}
    (h : ∀ v ∈ items.values, Ends P Q (f v))
    (raised : ∀ failure, items.ending? = some failure → Q failure) :
    Ends (fun bs => ∀ b ∈ bs, P b) Q (eachItem f items) := by
  cases items with
  | fixed items => exact ends_each h
  | stream id items ending => exact ends_drain h raised _

theorem gives_eachItem {P : β → Prop} {f : Value → Run σ β} {items : Items}
    (h : ∀ v ∈ items.values, Gives P (f v)) : Gives (fun bs => ∀ b ∈ bs, P b) (eachItem f items) :=
  ends_eachItem h fun _ _ => trivial

end Run

end Stencil
