-- Sets of values that a rendering does not leave: those that hold, with a value, what its keys,
-- its items and the calls of filters lead to. Names and expressions give values of the set in a
-- context of such values.
import Stencil.Proofs.Demands
import Stencil.Proofs.Endings

namespace Stencil

/-! ## Keys of templates -/

/-- A name or a key that stands in the expression. -/
def Expr.HasKey (x : Expr) (key : String) : Prop :=
  .name key ∈ x.parts ∨ ∃ base, .key base key ∈ x.parts

theorem Expr.HasKey.of_part {x y : Expr} {key : String} (h : y.HasKey key) (part : y ∈ x.parts) :
    x.HasKey key :=
  h.imp (parts_subset part ·) fun ⟨base, is⟩ => ⟨base, parts_subset part is⟩

/-- A name or a key that stands in a tag of the template. -/
def Template.HasKey (t : Template) (key : String) : Prop :=
  ∃ head ∈ t.heads, head.expression.HasKey key

theorem Template.hasKey_iff {t : Template} {key : String} :
    t.HasKey key ↔ t.Mentions (.name key) ∨ ∃ base, t.Mentions (.key base key) := by
  constructor
  · rintro ⟨head, is, name | ⟨base, keyed⟩⟩
    · exact .inl ⟨head, is, name⟩
    · exact .inr ⟨base, head, is, keyed⟩
  · rintro (⟨head, is, name⟩ | ⟨base, head, is, keyed⟩)
    · exact ⟨head, is, .inl name⟩
    · exact ⟨head, is, .inr ⟨base, keyed⟩⟩

/-! ## Sets that hold what they lead to -/

variable {σ : Type} {P : Value → Prop} {K : String → Prop}

/-- Look-ups of the keys and sequences lead from the set to nothing else. -/
structure Value.Encloses (P : Value → Prop) (K : String → Prop) : Prop where
  missing : P .missing
  null : P .null
  lookup : ∀ {v u : Value} {key}, P v → K key → v.lookup key = .ok u → P u
  item : ∀ {v u : Value} {items}, P v → v.items? = some items → u ∈ items.values → P u

/-- The filters of the set do not lead out of it either. -/
structure Host.Encloses (host : Host σ) (P : Value → Prop) (K : String → Prop) : Prop
    extends Value.Encloses P K where
  result : ∀ {f captured arguments}, P (.filter f captured) → (∀ a ∈ arguments, P a) →
    Run.Gives P (f.apply host captured arguments)

/-- The values and the filters of all scopes are in the set. -/
def Context.Holds (P : Value → Prop) (c : Context) : Prop :=
  ∀ s ∈ c.scopes, P s.value ∧ ∀ f ∈ s.filters, P f.2

namespace Context.Holds

variable {c : Context} {v u : Value} {name : String}

theorem push (h : c.Holds P) (hv : P v) : (c.push v []).Holds P := by
  intro s hs
  rcases List.mem_cons.1 hs with rfl | hs
  · exact ⟨hv, List.forall_mem_nil _⟩
  · exact h s hs

theorem top (encloses : Value.Encloses P K) (h : c.Holds P) : P c.top := by
  obtain ⟨scopes⟩ := c
  show P (Context.topOf scopes)
  induction scopes with
  | nil => exact encloses.missing
  | cons s rest ih =>
    unfold Context.topOf
    split
    · exact ih fun s hs => h s (List.mem_cons_of_mem _ hs)
    · exact (h s List.mem_cons_self).1

theorem scope (encloses : Value.Encloses P K) (key : K name) {s : Scope} (hv : P s.value)
    (hf : ∀ f ∈ s.filters, P f.2) (found : s.lookup name = .ok u) : P u := by
  unfold Scope.lookup at found
  cases hl : s.value.lookup name with
  | error error =>
    rw [hl] at found
    cases found
  | ok v =>
    rw [hl] at found
    have found : (if v.isMissing then (s.filters.lookup name).getD .missing else v) = u :=
      Except.ok.inj found
    split at found
    · cases hb : s.filters.lookup name with
      | none =>
        rw [hb] at found
        exact found ▸ encloses.missing
      | some f =>
        rw [hb] at found
        obtain ⟨before, after, same, _⟩ := List.lookup_eq_some_iff.1 hb
        exact found ▸ hf (name, f) (same ▸ List.mem_append_right _ List.mem_cons_self)
    · exact found ▸ encloses.lookup hv key hl

theorem lookup (encloses : Value.Encloses P K) (h : c.Holds P) (key : K name)
    (found : c.lookup name = .ok u) : P u := by
  obtain ⟨scopes⟩ := c
  replace found : Context.lookupIn name scopes = .ok u := found
  induction scopes with
  | nil => exact Except.ok.inj found ▸ encloses.missing
  | cons s rest ih =>
    unfold Context.lookupIn at found
    cases hs : s.lookup name with
    | error error =>
      rw [hs] at found
      cases found
    | ok v =>
      rw [hs] at found
      replace found : (if v.isMissing then Context.lookupIn name rest else pure v) = .ok u := found
      obtain ⟨hv, hf⟩ := h s List.mem_cons_self
      split at found
      · exact ih (fun s hs => h s (List.mem_cons_of_mem _ hs)) found
      · exact Except.ok.inj found ▸ scope encloses key hv hf hs

end Context.Holds

/-! ## Evaluation -/

open Run (Gives)

namespace Evaluator

variable {ev : Evaluator σ} {c : Context}

theorem encloses_argument (encloses : Value.Encloses P K) (a : Expr) {v : Value} (hv : P v) :
    Gives P (ev.argument a v) := by
  unfold argument
  split
  · split
    · exact Run.ends_pure encloses.null
    · exact Run.ends_fail trivial
  · exact Run.ends_pure hv

theorem encloses_callee (f : Expr) {v : Value} (hv : P v) :
    Gives (fun callee => P (.filter callee.1 callee.2))
      (callee f v : Run σ (Filter × List Value)) := by
  unfold callee
  split
  · exact Run.ends_pure hv
  · exact Run.ends_fail trivial
  · exact Run.ends_fail trivial

mutual

/-- Expressions with the keys give values of the set in a context of values of the set. -/
theorem encloses_evaluate (encloses : ev.host.Encloses P K) (hc : c.Holds P) (x : Expr)
    (keys : ∀ key, x.HasKey key → K key) : Gives P (ev.evaluate c x) := by
  cases x with
  | name n =>
    have key : K n := keys n (.inl (Expr.self_mem_parts _))
    simp only [evaluate]
    exact Run.ends_ofExcept (fun v hv => hc.lookup encloses.toEncloses key hv) fun _ _ => trivial
  | top =>
    simp only [evaluate]
    exact Run.ends_pure (hc.top encloses.toEncloses)
  | key base k =>
    have key : K k := keys k (.inr ⟨base, Expr.self_mem_parts _⟩)
    have inner : ∀ key, base.HasKey key → K key := fun key h =>
      keys key (h.of_part (List.mem_cons_of_mem _ base.self_mem_parts))
    simp only [evaluate]
    refine (encloses_evaluate encloses hc base inner).bind fun v hv => ?_
    exact Run.ends_ofExcept (fun u hu => encloses.lookup hv key hu) fun _ _ => trivial
  | call f a rest =>
    have callee : ∀ key, f.HasKey key → K key := fun key h =>
      keys key (h.of_part Expr.callee_mem_parts)
    have within : ∀ y ∈ a :: rest, ∀ key, y.HasKey key → K key := fun y hy key h =>
      keys key (h.of_part (Expr.argument_mem_parts hy))
    have first : ∀ key, a.HasKey key → K key := within a List.mem_cons_self
    simp only [evaluate]
    refine (encloses_evaluate encloses hc f callee).bind fun v hv => ?_
    refine (encloses_callee f hv).bind fun callee hcallee => ?_
    refine (encloses_evaluate encloses hc a first).bind fun u hu => ?_
    refine (encloses_argument encloses.toEncloses a hu).bind fun first hfirst => ?_
    refine (encloses_evaluateArguments encloses hc rest fun y hy =>
      within y (List.mem_cons_of_mem _ hy)).bind fun others hothers => Run.gives_wrap ?_
    exact encloses.result hcallee (List.forall_mem_cons.2 ⟨hfirst, hothers⟩)

theorem encloses_evaluateArguments (encloses : ev.host.Encloses P K) (hc : c.Holds P)
    (l : List Expr) (keys : ∀ x ∈ l, ∀ key, x.HasKey key → K key) :
    Gives (fun values => ∀ v ∈ values, P v) (ev.evaluateArguments c l) := by
  cases l with
  | nil =>
    simp only [evaluateArguments]
    exact Run.ends_pure (List.forall_mem_nil _)
  | cons a rest =>
    simp only [evaluateArguments]
    refine (encloses_evaluate encloses hc a (keys a List.mem_cons_self)).bind fun u hu => ?_
    refine (encloses_argument encloses.toEncloses a hu).bind fun first hfirst => ?_
    refine (encloses_evaluateArguments encloses hc rest fun y hy =>
      keys y (List.mem_cons_of_mem _ hy)).bind fun others hothers => Run.ends_pure ?_
    exact List.forall_mem_cons.2 ⟨hfirst, hothers⟩

end

end Evaluator

end Stencil
