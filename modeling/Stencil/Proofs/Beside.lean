-- Runs beside each other. A run may be repeated in another world, in which other tags were created
-- before, streams were drawn from that the run leaves alone, and the host has come to a state in
-- which it does the same; it ends alike, as long as nothing looks at what differs.
import Mathlib.Data.List.Forall2
import Stencil.Proofs.Pieces
import Stencil.Proofs.Rendering

namespace Stencil

variable {σ : Type}

/-! ## Worlds -/

/-- What may differ outside between two runs: some streams, and the states of the host. -/
structure Veil (σ : Type) where
  streams : Nat → Prop
  hosts : σ → σ → Prop

/-- Nothing may differ. -/
def Veil.none : Veil σ := ⟨fun _ => False, Eq⟩

/-- What may differ between two runs: what is outside, and the numbers of the tags that were created
before each. -/
structure Drift (σ : Type) extends Veil σ where
  first : Nat
  second : Nat

/-- Outside, only what may differ does, and the second run finds the streams further on. -/
structure Outside.Beside (veil : Veil σ) (o p : Outside σ) : Prop where
  host : veil.hosts o.host p.host
  same : ∀ id, ¬ veil.streams id → o.pulled id = p.pulled id
  ahead : ∀ id, veil.streams id → o.pulled id ≤ p.pulled id

/-- Nothing is drawn from the streams that may differ. -/
def Outside.Spares (veil : Veil σ) (o p : Outside σ) : Prop :=
  ∀ id, veil.streams id → p.pulled id = o.pulled id

/-- At least `n` tags were created by each of two runs, equally many by both, and these have come
equally far. -/
def Journal.Beside (d : Drift σ) (n : Nat) (j k : Journal) : Prop :=
  ∃ i, n ≤ i ∧ j.created = d.first + i ∧ k.created = d.second + i ∧
    ∀ x < i, j.stateOf (d.first + x) = k.stateOf (d.second + x)

structure World.Beside (d : Drift σ) (n : Nat) (w v : World σ) : Prop where
  outside : w.outside.Beside d.toVeil v.outside
  journal : w.journal.Beside d n v.journal

/-- Neither are tags lost nor is anything put back into the streams. -/
structure World.Grows (d : Drift σ) (w w' : World σ) : Prop where
  created : w.journal.created ≤ w'.journal.created
  pulled : ∀ id, d.streams id → w.outside.pulled id ≤ w'.outside.pulled id

theorem Outside.beside_none (o : Outside σ) : o.Beside .none o :=
  ⟨rfl, fun _ _ => rfl, fun _ _ => Nat.le_refl _⟩

theorem Outside.spares_none (o p : Outside σ) : o.Spares .none p := fun _ => False.elim

theorem Outside.Beside.eq_of_none {o p : Outside σ} (h : o.Beside .none p) : o = p := by
  obtain ⟨host, same, _⟩ := h
  obtain ⟨a, pulled⟩ := o
  obtain ⟨b, pulled'⟩ := p
  have pulled : pulled = pulled' := funext fun id => same id not_false
  rw [pulled, show a = b from host]

theorem Journal.Beside.weaken {d : Drift σ} {n m : Nat} {j k : Journal} (h : j.Beside d n k)
    (hm : m ≤ n) : j.Beside d m k := by
  obtain ⟨i, hi, rest⟩ := h
  exact ⟨i, Nat.le_trans hm hi, rest⟩

theorem World.Grows.refl (d : Drift σ) (w : World σ) : w.Grows d w :=
  ⟨Nat.le_refl _, fun _ _ => Nat.le_refl _⟩

theorem World.Grows.trans {d : Drift σ} {w w' w'' : World σ} (h : w.Grows d w')
    (h' : w'.Grows d w'') : w.Grows d w'' :=
  ⟨Nat.le_trans h.created h'.created, fun id hd => Nat.le_trans (h.pulled id hd) (h'.pulled id hd)⟩

/-- If nothing is drawn in two steps, nothing is drawn in each. -/
theorem Outside.Spares.steps {d : Drift σ} {w w' w'' : World σ}
    (h : w.outside.Spares d.toVeil w''.outside) (hw : w.Grows d w') (hw' : w'.Grows d w'') :
    w.outside.Spares d.toVeil w'.outside ∧ w'.outside.Spares d.toVeil w''.outside := by
  have same : w.outside.Spares d.toVeil w'.outside := fun id hd => by
    have := h id hd
    have := hw.pulled id hd
    have := hw'.pulled id hd
    omega
  exact ⟨same, fun id hd => (h id hd).trans (same id hd).symm⟩

theorem Outside.pulled_le_pull (o : Outside σ) (id : Nat) (items : List Value)
    (ending : Option Failure) (other : Nat) :
    o.pulled other ≤ (o.pull id items ending).2.pulled other := by
  unfold pull
  split
  · exact Nat.le_refl _
  · simp only
    split
    · omega
    · exact Nat.le_refl _

theorem Draw.after_eq_ended {pulled : Nat} {items : List Value} {ending : Option Failure} :
    after pulled items ending = .ended ↔
      items.length ≤ pulled ∧ (ending.isSome = true → pulled ≠ items.length) := by
  unfold after
  cases found : items[pulled]? with
  | some v =>
    have inside := (List.getElem?_eq_some_iff.1 found).1
    simp [Nat.not_le_of_lt inside]
  | none => cases ending <;> simp [List.getElem?_eq_none_iff.1 found]

/-- A stream that is at its end stays there. -/
theorem Draw.after_ended {pulled further : Nat} {items : List Value} {ending : Option Failure}
    (h : after pulled items ending = .ended) (ahead : pulled ≤ further) :
    after further items ending = .ended := by
  obtain ⟨all, raised⟩ := after_eq_ended.1 h
  refine after_eq_ended.2 ⟨Nat.le_trans all ahead, fun some => ?_⟩
  have := raised some
  omega

/-- An item is drawn alike, and a stream that is found at its end further on is at its end. -/
theorem Outside.Beside.pull {veil : Veil σ} {o p : Outside σ} (h : o.Beside veil p)
    {id : Nat} {items : List Value} {ending : Option Failure}
    (spares : o.Spares veil (o.pull id items ending).2) :
    (o.pull id items ending).1 = (p.pull id items ending).1 ∧
      (o.pull id items ending).2.Beside veil (p.pull id items ending).2 := by
  by_cases hd : veil.streams id
  · have ended : Draw.after (o.pulled id) items ending = .ended := by
      have same := spares id hd
      unfold Outside.pull at same
      split at same
      · assumption
      · simp at same
    unfold Outside.pull
    rw [ended, Draw.after_ended ended (h.ahead id hd)]
    exact ⟨rfl, h⟩
  · have same := h.same id hd
    unfold Outside.pull
    rw [← same]
    split
    · exact ⟨rfl, h⟩
    · refine ⟨rfl, h.host, fun other ho => ?_, fun other ho => ?_⟩
      · simp only [h.same other ho]
      · have ne : other ≠ id := by
          rintro rfl
          exact hd ho
        simp only [if_neg ne]
        exact h.ahead other ho

/-! ## Runs -/

namespace Run

variable {α β : Type} {d : Drift σ} {n : Nat}

/-- What the first run ends with, the second one ends with in any world beside, if the first one
draws nothing from the streams that may differ. Both begin where at least `n` tags were created. -/
structure Matches (d : Drift σ) (n : Nat) (r s : Run σ α) : Prop where
  grows : ∀ {w a w'}, r w = (.done a, w') → d.first + n ≤ w.journal.created → w.Grows d w'
  ends : ∀ {w v a w'}, r w = (.done a, w') → w.Beside d n v →
    w.outside.Spares d.toVeil w'.outside →
    ∃ v', s v = (.done a, v') ∧ w'.Beside d n v'

theorem matches_pure (a : α) : Matches d n (pure a : Run σ α) (pure a) := by
  constructor
  · intro w b w' h _
    obtain ⟨_, rfl⟩ := pure_eq_done.1 h
    exact .refl d w
  · intro w v b w' h beside _
    obtain ⟨rfl, rfl⟩ := pure_eq_done.1 h
    exact ⟨v, rfl, beside⟩

/-- A run that does not end with a value matches any. -/
theorem matches_of_not_done {r : Run σ α} (h : ∀ w a w', r w ≠ (.done a, w')) (s : Run σ α) :
    Matches d n r s :=
  ⟨fun hr _ => absurd hr (h _ _ _), fun hr _ _ => absurd hr (h _ _ _)⟩

theorem matches_fail (e : Failure) (s : Run σ α) : Matches d n (fail e) s :=
  matches_of_not_done (fun _ _ _ h => by cases h) s

theorem matches_exhaust (s : Run σ α) : Matches d n exhaust s :=
  matches_of_not_done (fun _ _ _ h => by cases h) s

theorem Beside.floor {w v : World σ} (h : w.Beside d n v) : d.first + n ≤ w.journal.created := by
  obtain ⟨i, hi, created, _⟩ := h.journal
  omega

theorem Matches.bind {r s : Run σ α} {f g : α → Run σ β} (h : Matches d n r s)
    (hf : ∀ a, Matches d n (f a) (g a)) : Matches d n (r >>= f) (s >>= g) := by
  constructor
  · intro w b w' hr floor
    obtain ⟨a, w₁, hr, hfa⟩ := bind_eq_done.1 hr
    have first := h.grows hr floor
    exact first.trans ((hf a).grows hfa (Nat.le_trans floor first.created))
  · intro w v b w' hr beside spares
    obtain ⟨a, w₁, hr, hfa⟩ := bind_eq_done.1 hr
    have floor := Beside.floor beside
    have first := h.grows hr floor
    have second := (hf a).grows hfa (Nat.le_trans floor first.created)
    obtain ⟨spares, spares'⟩ := spares.steps first second
    obtain ⟨v₁, hs, beside⟩ := h.ends hr beside spares
    obtain ⟨v', hg, beside⟩ := (hf a).ends hfa beside spares'
    exact ⟨v', bind_eq_done.2 ⟨a, v₁, hs, hg⟩, beside⟩

theorem Matches.onFailure {r s : Run σ α} {f g : Failure → Run σ Failure} (h : Matches d n r s) :
    Matches d n (r.onFailure f) (s.onFailure g) := by
  constructor
  · intro w a w' hr floor
    exact h.grows (onFailure_eq_done.1 hr) floor
  · intro w v a w' hr beside spares
    obtain ⟨v', hs, beside⟩ := h.ends (onFailure_eq_done.1 hr) beside spares
    exact ⟨v', onFailure_eq_done.2 hs, beside⟩

theorem Matches.wrap {r s : Run σ α} {cause cause' : HostError → Cause} (h : Matches d n r s) :
    Matches d n (r.wrap cause) (s.wrap cause') := h.onFailure

theorem matches_ofExcept (x : Except HostError α) :
    Matches d n (ofExcept x : Run σ α) (ofExcept x) := by
  cases x with
  | ok a => exact matches_pure a
  | error e => exact matches_fail _ _

/-! ## Steps outside -/

theorem outside_eq_done {f : Outside σ → α × Outside σ} {w w' : World σ} {a : α} :
    outside f w = (.done a, w') ↔
      (f w.outside).1 = a ∧ { w with outside := (f w.outside).2 } = w' := by
  constructor
  · intro h
    cases h
    exact ⟨rfl, rfl⟩
  · rintro ⟨rfl, rfl⟩
    rfl

/-- A step after which the runs go on with what they have found outside. -/
theorem matches_outside_bind {f g : Outside σ → Outside σ}
    {next next' next'' : Outside σ → Run σ α}
    (grows : ∀ o id, d.streams id → o.pulled id ≤ (f o).pulled id)
    (further : ∀ o, Matches d n (next o) (next'' o))
    (same : ∀ o p, o.Beside d.toVeil p → o.Spares d.toVeil (f o) → (f o).Beside d.toVeil (g p))
    (hn : ∀ o p, o.Beside d.toVeil p → o.Spares d.toVeil (f o) →
      Matches d n (next o) (next' p)) :
    Matches d n (outside (fun o => (o, f o)) >>= next) (outside (fun o => (o, g o)) >>= next') := by
  have step {w w₁ w' : World σ} {o : Outside σ} {a : α}
      (first : outside (fun o => (o, f o)) w = (.done o, w₁)) (hr : next o w₁ = (.done a, w'))
      (floor : d.first + n ≤ w.journal.created) : w.Grows d w₁ ∧ w₁.Grows d w' := by
    obtain ⟨rfl, rfl⟩ := outside_eq_done.1 first
    exact ⟨⟨Nat.le_refl _, grows _⟩, (further _).grows hr floor⟩
  constructor
  · intro w a w' hr floor
    obtain ⟨o, w₁, first, hr⟩ := bind_eq_done.1 hr
    obtain ⟨grow, grow'⟩ := step first hr floor
    exact grow.trans grow'
  · intro w v a w' hr beside spares
    obtain ⟨o, w₁, first, hr⟩ := bind_eq_done.1 hr
    obtain ⟨grow, grow'⟩ := step first hr (Beside.floor beside)
    obtain ⟨spares, spares'⟩ := spares.steps grow grow'
    obtain ⟨rfl, rfl⟩ := outside_eq_done.1 first
    have beside₁ : World.Beside d n { w with outside := f w.outside }
        { v with outside := g v.outside } := ⟨same _ _ beside.outside spares, beside.journal⟩
    obtain ⟨v', hs, beside'⟩ := (hn _ _ beside.outside spares).ends hr beside₁ spares'
    exact ⟨v', bind_eq_done.2 ⟨_, _, outside_eq_done.2 ⟨rfl, rfl⟩, hs⟩, beside'⟩

theorem matches_pull (id : Nat) (items : List Value) (ending : Option Failure) :
    Matches d n (outside (·.pull id items ending) : Run σ Draw)
      (outside (·.pull id items ending)) := by
  constructor
  · intro w next w' h _
    obtain ⟨_, rfl⟩ := outside_eq_done.1 h
    exact ⟨Nat.le_refl _, fun other _ => w.outside.pulled_le_pull id items ending other⟩
  · intro w v next w' h beside spares
    obtain ⟨rfl, rfl⟩ := outside_eq_done.1 h
    obtain ⟨value, outside⟩ := beside.outside.pull spares
    exact ⟨_, outside_eq_done.2 ⟨value.symm, rfl⟩, outside, beside.journal⟩

/-! ## Going through items -/

theorem Matches.cons {r s : Run σ β} {r' s' : Run σ (List β)} (h : Matches d n r s)
    (h' : Matches d n r' s') :
    Matches d n (r >>= fun b => r' >>= fun bs => pure (b :: bs))
      (s >>= fun b => s' >>= fun bs => pure (b :: bs)) :=
  h.bind fun b => h'.bind fun bs => matches_pure (b :: bs)

theorem matches_each {γ : Type} {f : α → Run σ β} {g : γ → Run σ β} {l : List α} {k : List γ}
    (h : List.Forall₂ (fun a c => Matches d n (f a) (g c)) l k) :
    Matches d n (Run.each f l) (Run.each g k) := by
  induction h with
  | nil => exact matches_pure []
  | cons first _ ih => exact first.cons ih

theorem matches_drain {f g : Value → Run σ β} (h : ∀ v, Matches d n (f v) (g v)) (id : Nat)
    (items : List Value) (ending : Option Failure) (bound : Nat) :
    Matches d n (Run.drain f id items ending bound) (Run.drain g id items ending bound) := by
  induction bound with
  | zero => exact matches_pure []
  | succ bound ih =>
    refine (matches_pull id items ending).bind fun next => ?_
    cases next with
    | ended => exact matches_pure []
    | raised failure => exact matches_fail failure _
    | item item => exact (h item).cons ih

theorem matches_eachItem {f g : Value → Run σ β} (h : ∀ v, Matches d n (f v) (g v))
    (items : Items) : Matches d n (Run.eachItem f items) (Run.eachItem g items) := by
  cases items with
  | fixed items => exact matches_each (List.forall₂_same.2 fun v _ => h v)
  | stream id items ending => exact matches_drain h id items ending _

end Run

end Stencil
