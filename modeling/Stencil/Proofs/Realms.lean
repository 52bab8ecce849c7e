-- Renderings that share nothing. A rendering draws from the streams and runs the functions that its
-- context leads to; where these keep to a realm of their own outside, the rendering finds there
-- what only it has left there, and leaves alone what others find.
import Stencil.Proofs.Beside
import Stencil.Proofs.Elsewhere
import Stencil.Proofs.Tasks
import Stencil.Proofs.Throughout

namespace Stencil

variable {σ : Type}

/-! ## Realms -/

/-- What a rendering has for itself: the values that belong to it, when it finds the same in two
outsides, and when an outside becomes another one without others noticing. -/
structure Realm (σ : Type) where
  owns : Value → Prop
  alike : Outside σ → Outside σ → Prop
  leaves : Outside σ → Outside σ → Prop

namespace Realm

/-- A step outside that keeps to the realm. -/
structure Step {α : Type} (R : Realm σ) (f : Outside σ → α × Outside σ) : Prop where
  leaves : ∀ o, R.leaves o (f o).2
  same : ∀ {o p}, R.alike o p → (f o).1 = (f p).1 ∧ R.alike (f o).2 (f p).2

end Realm

/-- The scripts ask for what belongs to the realm, and keep to it outside. -/
inductive Script.Secluded (R : Realm σ) : Script σ → Script σ → Prop
  | done {answer : Answer} : (∀ v, answer = .value v → v.Throughout R.owns) →
    Secluded R (.done answer) (.done answer)
  | fail (failure : Failure) : Secluded R (.fail failure) (.fail failure)
  | content {c : Context} {next next' : Rendering → Script σ} : c.Throughout R.owns →
    (∀ r, Secluded R (next r) (next' r)) → Secluded R (.content c next) (.content c next')
  | value {v : Value} {c : Context} {next next' : Rendering → Script σ} : v.Throughout R.owns →
    c.Throughout R.owns → (∀ r, Secluded R (next r) (next' r)) →
    Secluded R (.value v c next) (.value v c next')
  | template (t : Template) {c : Context} {next next' : String → Script σ} :
    c.Throughout R.owns → (∀ s, Secluded R (next s) (next' s)) →
    Secluded R (.template t c next) (.template t c next')
  | escape (s : String) {next next' : String → Script σ} :
    (∀ s, Secluded R (next s) (next' s)) → Secluded R (.escape s next) (.escape s next')
  | state {next next' : TagState → Script σ} :
    (∀ s, Secluded R (next s) (next' s)) → Secluded R (.state next) (.state next')
  | outside {change : Outside σ → Outside σ} {next next' : Outside σ → Script σ} :
    (∀ o, R.leaves o (change o)) → (∀ o p, R.alike o p → R.alike (change o) (change p)) →
    (∀ o p, R.alike o p → Secluded R (next o) (next' p)) →
    Secluded R (.outside change next) (.outside change next')

/-- The function of the host that a value leads to, with what it has captured. -/
def Value.block? : Value → Option (String × List Value)
  | .filter f captured => f.host?.map (·, captured)
  | .pending (.host name) captured _ => some (name, captured)
  | _ => none

/-- What belongs to the realm leads only to what belongs to it, and keeps to it: functions, streams
and renderables, which do not look at the numbers of their tags either. -/
structure Realm.Governs (R : Realm σ) (host : Host σ) : Prop where
  ordinary : Value.Ordinary R.owns
  markup : ∀ s, R.owns (.markup s)
  pending : Value.KeepsPending R.owns
  alike_refl : ∀ o, R.alike o o
  leaves_refl : ∀ o, R.leaves o o
  leaves_trans : ∀ {o p q}, R.leaves o p → R.leaves p q → R.leaves o q
  call : ∀ {v : Value} {name captured arguments}, v.Throughout R.owns →
    v.block? = some (name, captured) → (∀ a ∈ arguments, a.Throughout R.owns) →
    R.Step (host.call name captured arguments)
  result : ∀ {v u : Value} {name captured arguments o o'}, v.Throughout R.owns →
    v.block? = some (name, captured) → (∀ a ∈ arguments, a.Throughout R.owns) →
    host.call name captured arguments o = (.ok u, o') → u.Throughout R.owns
  pull : ∀ {label id items ending}, R.owns (.stream label id items ending) →
    R.Step (·.pull id items ending)
  script : ∀ {v : Value} {name captured} {t u : Tag} {c : Context}, v.Throughout R.owns →
    v.script? = some (name, captured) → t.head = u.head → t.form = u.form →
    c.Throughout R.owns →
    (host.script name captured t c).Secluded R (host.script name captured u c)

/-! ## Runs that keep to a realm -/

/-- Two worlds in which the same is found in the realm, and in which tags have come equally far. -/
structure World.Near (R : Realm σ) (d : Drift σ) (n : Nat) (w v : World σ) : Prop where
  outside : R.alike w.outside v.outside
  journal : w.journal.Beside d n v.journal

namespace Run

variable {α β : Type} {R : Realm σ} {d : Drift σ} {n : Nat} {host : Host σ}

/-- The first run leaves alone what is outside of the realm, and the second one does the same as the
first in every world that is near. Both begin where at least `n` tags were created. -/
structure Secluded (R : Realm σ) (d : Drift σ) (n : Nat) (r s : Run σ α) : Prop where
  created : ∀ {w}, d.first + n ≤ w.journal.created → w.journal.created ≤ (r w).2.journal.created
  leaves : ∀ {w}, d.first + n ≤ w.journal.created → R.leaves w.outside (r w).2.outside
  ends : ∀ {w v}, w.Near R d n v → (r w).1 = (s v).1 ∧ (r w).2.Near R d n (s v).2

section
variable (governs : R.Governs host)

include governs

/-- Runs that do nothing outside and create no tags. -/
theorem secluded_still {r s : Run σ α} (outcome : Outcome α) (hr : ∀ w, r w = (outcome, w))
    (hs : ∀ w, s w = (outcome, w)) : Secluded R d n r s := by
  constructor
  · intro w _
    rw [hr]
  · intro w _
    rw [hr]
    exact governs.leaves_refl _
  · intro w v near
    rw [hr, hs]
    exact ⟨rfl, near⟩

theorem secluded_pure (a : α) : Secluded R d n (pure a : Run σ α) (pure a) :=
  secluded_still governs (.done a) (fun _ => rfl) fun _ => rfl

theorem secluded_fail (failure : Failure) :
    Secluded R d n (fail failure : Run σ α) (fail failure) :=
  secluded_still governs (.failed failure) (fun _ => rfl) fun _ => rfl

theorem secluded_exhaust : Secluded R d n (exhaust : Run σ α) exhaust :=
  secluded_still governs .exhausted (fun _ => rfl) fun _ => rfl

theorem secluded_ofExcept (x : Except HostError α) :
    Secluded R d n (ofExcept x : Run σ α) (ofExcept x) := by
  cases x with
  | ok a => exact secluded_pure governs a
  | error error => exact secluded_fail governs _

theorem Secluded.bind {P : α → Prop} {r s : Run σ α} {f g : α → Run σ β}
    (h : Secluded R d n r s) (gives : Gives P r) (hf : ∀ a, P a → Secluded R d n (f a) (g a)) :
    Secluded R d n (r >>= f) (s >>= g) := by
  constructor
  · intro w floor
    have first := h.created floor
    rw [bind_apply]
    rcases hr : r w with ⟨a | e | _, w'⟩ <;> rw [hr] at first
    · exact Nat.le_trans first ((hf a (gives.done hr)).created (Nat.le_trans floor first))
    · exact first
    · exact first
  · intro w floor
    have first := h.created floor
    have leaves := h.leaves floor
    rw [bind_apply]
    rcases hr : r w with ⟨a | e | _, w'⟩ <;> rw [hr] at first leaves
    · exact governs.leaves_trans leaves
        ((hf a (gives.done hr)).leaves (Nat.le_trans floor first))
    · exact leaves
    · exact leaves
  · intro w v near
    obtain ⟨same, near⟩ := h.ends near
    rw [bind_apply, bind_apply]
    rcases hr : r w with ⟨a | e | _, w'⟩ <;> rcases hs : s v with ⟨b | e' | _, v'⟩ <;>
      rw [hr, hs] at same near <;> cases same
    · exact (hf a (gives.done hr)).ends near
    · exact ⟨rfl, near⟩
    · exact ⟨rfl, near⟩

/-- A step whose value does not matter. -/
theorem Secluded.bind_any {r s : Run σ α} {f g : α → Run σ β} (h : Secluded R d n r s)
    (hf : ∀ a, Secluded R d n (f a) (g a)) : Secluded R d n (r >>= f) (s >>= g) :=
  h.bind governs (gives_any r) fun a _ => hf a

theorem Secluded.onFailure {r s : Run σ α} {f g : Failure → Run σ Failure}
    (h : Secluded R d n r s) (hf : ∀ e, Secluded R d n (f e) (g e)) :
    Secluded R d n (r.onFailure f) (s.onFailure g) := by
  have after (e : Failure) : Secluded R d n (f e >>= fail : Run σ α) (g e >>= fail) :=
    (hf e).bind_any governs fun e => secluded_fail governs e
  constructor
  · intro w floor
    have first := h.created floor
    unfold Run.onFailure
    rcases hr : r w with ⟨a | e | _, w'⟩ <;> rw [hr] at first
    · exact first
    · exact Nat.le_trans first ((after e).created (Nat.le_trans floor first))
    · exact first
  · intro w floor
    have first := h.created floor
    have leaves := h.leaves floor
    unfold Run.onFailure
    rcases hr : r w with ⟨a | e | _, w'⟩ <;> rw [hr] at first leaves
    · exact leaves
    · exact governs.leaves_trans leaves ((after e).leaves (Nat.le_trans floor first))
    · exact leaves
  · intro w v near
    obtain ⟨same, near⟩ := h.ends near
    unfold Run.onFailure
    rcases hr : r w with ⟨a | e | _, w'⟩ <;> rcases hs : s v with ⟨b | e' | _, v'⟩ <;>
      rw [hr, hs] at same near <;> cases same
    · exact ⟨rfl, near⟩
    · exact (after e).ends near
    · exact ⟨rfl, near⟩

theorem Secluded.wrap {r s : Run σ α} {cause : HostError → Cause} (h : Secluded R d n r s) :
    Secluded R d n (r.wrap cause) (s.wrap cause) := by
  refine h.onFailure governs fun e => ?_
  cases e with
  | fault f => exact secluded_pure governs _
  | host error => exact secluded_pure governs _

omit governs in
theorem secluded_outside {f : Outside σ → α × Outside σ} (step : R.Step f) :
    Secluded R d n (outside f) (outside f) where
  created _ := Nat.le_refl _
  leaves _ := step.leaves _
  ends near := by
    obtain ⟨value, alike⟩ := step.same near.outside
    exact ⟨congrArg Outcome.done value, alike, near.journal⟩

omit governs in
theorem secluded_call {name : String} {captured arguments : List Value}
    (step : R.Step (host.call name captured arguments)) :
    Secluded R d n (host.run name captured arguments) (host.run name captured arguments) := by
  have world (w : World σ) : (host.run name captured arguments w).2 =
      { w with outside := (host.call name captured arguments w.outside).2 } := by
    unfold Host.run
    rcases host.call name captured arguments w.outside with ⟨_ | _, o⟩ <;> rfl
  constructor
  · intro w _
    rw [world]
  · intro w _
    rw [world]
    exact step.leaves _
  · intro w v near
    obtain ⟨value, alike⟩ := step.same near.outside
    rw [world, world]
    refine ⟨?_, alike, near.journal⟩
    unfold Host.run
    rcases hw : host.call name captured arguments w.outside with ⟨_ | _, o⟩ <;>
      rcases hv : host.call name captured arguments v.outside with ⟨_ | _, o'⟩ <;>
      rw [hw, hv] at value <;> cases value <;> rfl

/-! ## Going through items -/

theorem Secluded.cons {r s : Run σ β} {r' s' : Run σ (List β)} (h : Secluded R d n r s)
    (h' : Secluded R d n r' s') :
    Secluded R d n (r >>= fun b => r' >>= fun bs => pure (b :: bs))
      (s >>= fun b => s' >>= fun bs => pure (b :: bs)) :=
  h.bind_any governs fun _ => h'.bind_any governs fun _ => secluded_pure governs _

theorem secluded_each {f g : α → Run σ β} {l : List α}
    (h : ∀ a ∈ l, Secluded R d n (f a) (g a)) : Secluded R d n (each f l) (each g l) := by
  induction l with
  | nil => exact secluded_pure governs []
  | cons a rest ih =>
    exact (h a List.mem_cons_self).cons governs (ih fun b hb => h b (List.mem_cons_of_mem _ hb))

theorem secluded_drain {f g : Value → Run σ β} {id : Nat} {items : List Value}
    {ending : Option Failure} (step : R.Step (·.pull id items ending))
    (h : ∀ v ∈ items, Secluded R d n (f v) (g v)) (bound : Nat) :
    Secluded R d n (drain f id items ending bound) (drain g id items ending bound) := by
  induction bound with
  | zero => exact secluded_pure governs []
  | succ bound ih =>
    have next : Gives (Draw.From items ending)
        (Run.outside (·.pull id items ending) : Run σ Draw) := ends_pull id items ending
    refine (secluded_outside step).bind governs next fun found hfound => ?_
    cases hfound with
    | item mem => exact (h _ mem).cons governs ih
    | raised ends => exact secluded_fail governs _
    | ended => exact secluded_pure governs []

theorem secluded_eachItem {f g : Value → Run σ β} {v : Value} {items : Items}
    (hv : v.Throughout R.owns) (hi : v.items? = some items)
    (h : ∀ u, u.Throughout R.owns → Secluded R d n (f u) (g u)) :
    Secluded R d n (eachItem f items) (eachItem g items) := by
  have inside : ∀ u ∈ items.values, Secluded R d n (f u) (g u) :=
    fun u hu => h u (hv.items governs.ordinary hi hu)
  cases items with
  | fixed items => exact secluded_each governs inside
  | stream id items ending =>
    cases v with
    | stream label id items ending =>
      cases hi
      exact secluded_drain governs (governs.pull hv.self) inside _
    | _ => cases hi

end

end Run

open Run (Gives)

variable {R : Realm σ} {d : Drift σ} {n : Nat} {host : Host σ}

/-! ## Scripts -/

namespace Script

/-- Handlers that keep to the realm. -/
structure Handlers.Secluded (R : Realm σ) (d : Drift σ) (n : Nat) (h k : Handlers σ) : Prop where
  content : ∀ {c : Context}, c.Throughout R.owns → Run.Secluded R d n (h.content c) (k.content c)
  value : ∀ {v : Value} {c : Context}, v.Throughout R.owns → c.Throughout R.owns →
    Run.Secluded R d n (h.value v c) (k.value v c)
  template : ∀ t {c : Context}, c.Throughout R.owns →
    Run.Secluded R d n (h.template t c) (k.template t c)
  escape : h.escape = k.escape
  state : Run.Secluded R d n h.state k.state

variable {s s' : Script σ} {h k : Handlers σ}

theorem Secluded.run (governs : R.Governs host) (secluded : s.Secluded R s')
    (hh : h.Secluded R d n k) : Run.Secluded R d n (s.run h) (s'.run k) := by
  induction secluded with
  | done _ => exact Run.secluded_pure governs _
  | fail failure => exact Run.secluded_fail governs failure
  | content hc _ ih => exact (hh.content hc).bind_any governs ih
  | value hv hc _ ih => exact (hh.value hv hc).bind_any governs ih
  | template t hc _ ih => exact (hh.template t hc).bind_any governs ih
  | escape text _ ih =>
    simp only [Script.run, hh.escape]
    exact ih _
  | state _ ih => exact hh.state.bind_any governs ih
  | @outside change next next' leaves same _ ih =>
    constructor
    · intro w floor
      exact (ih w.outside w.outside (governs.alike_refl _)).created
        (w := { w with outside := change w.outside }) floor
    · intro w floor
      have later := (ih w.outside w.outside (governs.alike_refl _)).leaves
        (w := { w with outside := change w.outside }) floor
      exact governs.leaves_trans (leaves w.outside) later
    · intro w v near
      exact (ih _ _ near.outside).ends (w := { w with outside := change w.outside })
        (v := { v with outside := change v.outside }) ⟨same _ _ near.outside, near.journal⟩

/-- What a script answers belongs to the realm. -/
theorem Secluded.gives (governs : R.Governs host) (secluded : s.Secluded R s') (h : Handlers σ) :
    Gives (fun answer => ∀ v, answer = .value v → v.Throughout R.owns) (s.run h) := by
  induction secluded with
  | done owned => exact Run.ends_pure owned
  | fail failure => exact Run.ends_fail trivial
  | content _ _ ih => exact (Run.gives_any _).bind_any ih
  | value _ _ _ ih => exact (Run.gives_any _).bind_any ih
  | template _ _ _ ih => exact (Run.gives_any _).bind_any ih
  | escape text _ ih => exact ih _
  | state _ ih => exact (Run.gives_any _).bind_any ih
  | outside _ _ _ ih =>
    intro w
    exact ih w.outside w.outside (governs.alike_refl _) { w with outside := _ }

end Script

/-! ## Streams -/

/-- The realm of what has these streams and runs nothing of the host. -/
def Realm.ofStreams (streams : Nat → Prop) : Realm σ where
  owns v := v.script? = none ∧ v.block? = none ∧
    ∀ label id items ending, v = .stream label id items ending → streams id
  alike o p := ∀ id, streams id → o.pulled id = p.pulled id
  leaves o p := ∀ id, ¬ streams id → o.pulled id = p.pulled id

theorem Outside.pulled_pull {o : Outside σ} {id : Nat} {items : List Value}
    {ending : Option Failure} {other : Nat} (h : other ≠ id) :
    (o.pull id items ending).2.pulled other = o.pulled other := by
  unfold pull
  split
  · rfl
  · exact if_neg h

theorem Realm.governs_ofStreams (streams : Nat → Prop) (host : Host σ) :
    (Realm.ofStreams streams).Governs host where
  ordinary := by
    constructor <;> intros <;> exact ⟨rfl, rfl, nofun⟩
  markup s := ⟨rfl, rfl, nofun⟩
  pending := by
    rintro (function | name) captured arguments ⟨_, block, _⟩
    · exact ⟨rfl, rfl, nofun⟩
    · cases block
  alike_refl _ _ _ := rfl
  leaves_refl _ _ _ := rfl
  leaves_trans h h' id hid := (h id hid).trans (h' id hid)
  call hv block _ := by
    cases hv.self.2.1.symm.trans block
  result hv block _ _ := by
    cases hv.self.2.1.symm.trans block
  pull := by
    rintro label id items ending ⟨_, _, owned⟩
    have own := owned label id items ending rfl
    constructor
    · intro o other ho
      refine (Outside.pulled_pull ?_).symm
      rintro rfl
      exact ho own
    · intro o p alike
      unfold Outside.pull
      rw [alike id own]
      split
      · exact ⟨rfl, alike⟩
      · refine ⟨rfl, fun other ho => ?_⟩
        simp only [alike other ho]
  script hv script _ _ _ := by
    cases hv.self.1.symm.trans script

end Stencil
