-- What the policy for missing values changes. A strict engine fails where a value is missing and a
-- lenient one goes on; until then the two do the same, so a strict run either ends with an
-- unresolved name or is the lenient run.
import Stencil.Proofs.LockStep
import Stencil.Proofs.Rendering

namespace Stencil

/-- A failure that says that a name or an expression has no value. -/
def Failure.Unresolved : Failure → Prop
  | .fault f => f.cause.kind = .unresolved
  | .host _ => False

open Run (LockStep)

/-! ## Evaluation -/

namespace Evaluator

variable {σ : Type} (host : Host σ)

/-- The evaluator that fails where an argument is missing. -/
abbrev strict : Evaluator σ := ⟨host, .fail⟩

/-- The evaluator that passes a missing argument as null. -/
abbrev lenient : Evaluator σ := ⟨host, .empty⟩

theorem lockStep_argument (a : Expr) (v : Value) :
    LockStep Failure.Unresolved ((strict host).argument a v) ((lenient host).argument a v) := by
  unfold argument
  by_cases h : v.isMissing = true
  · simp only [h, if_true]
    exact Run.lockStep_failWith _ _ rfl
  · simp only [h]
    exact .refl _

mutual

theorem lockStep_evaluate (c : Context) (x : Expr) :
    LockStep Failure.Unresolved ((strict host).evaluate c x) ((lenient host).evaluate c x) := by
  cases x with
  | name n => exact .refl _
  | top => exact .refl _
  | key base k =>
    simp only [evaluate]
    exact (lockStep_evaluate c base).bind fun v => .refl _
  | call f a rest =>
    simp only [evaluate]
    refine (lockStep_evaluate c f).bind fun v => LockStep.bind (.refl _) fun callee => ?_
    refine (lockStep_evaluate c a).bind fun u => (lockStep_argument host a u).bind fun first => ?_
    exact (lockStep_evaluateArguments c rest).bind fun others => .refl _

theorem lockStep_evaluateArguments (c : Context) (l : List Expr) :
    LockStep Failure.Unresolved ((strict host).evaluateArguments c l)
      ((lenient host).evaluateArguments c l) := by
  cases l with
  | nil => exact .refl _
  | cons a rest =>
    simp only [evaluateArguments]
    refine (lockStep_evaluate c a).bind fun u => (lockStep_argument host a u).bind fun first => ?_
    exact (lockStep_evaluateArguments c rest).bind fun others => .refl _

end

end Evaluator

/-! ## Rendering -/

namespace Engine

variable {σ : Type} (host : Host σ) (escape : Passage → Passage)

/-- The engine that fails where a value is missing. -/
abbrev strict : Engine σ := ⟨host, .fail, escape⟩

/-- The engine that inserts nothing where a value is missing. -/
abbrev lenient : Engine σ := ⟨host, .empty, escape⟩

theorem lockStep_resolve (tag : Tag) (c : Context) :
    LockStep Failure.Unresolved ((strict host escape).resolve tag c)
      ((lenient host escape).resolve tag c) := by
  unfold resolve
  refine (Evaluator.lockStep_evaluate host c _).bind fun v => ?_
  by_cases h : v.isMissing = true
  · simp only [h, Bool.true_and, decide_true, if_true]
    exact Run.lockStep_failWith _ _ rfl
  · simp only [h]
    exact .refl _

/-- A tag is visited in lock step if its value is rendered so. The fault of an unresolved name
stays one when it gets its place. -/
theorem lockStep_visit {α : Type} (head : Head) (form : Form) (c : Context)
    {f g : Tag → Value → Run σ α} (h : ∀ tag v, LockStep Failure.Unresolved (f tag v) (g tag v)) :
    LockStep Failure.Unresolved ((strict host escape).visit head form c f)
      ((lenient host escape).visit head form c g) := by
  unfold visit
  refine LockStep.bind (.refl _) fun tag => LockStep.onFailure ?_ ?_
  · refine LockStep.bind (.refl _) fun _ => (lockStep_resolve host escape tag c).bind fun v => ?_
    refine LockStep.bind (.refl _) fun _ => LockStep.bind (.refl _) fun _ => ?_
    exact (h tag v).bind fun answer => .refl _
  · intro e he w
    cases e with
    | host error => exact absurd he id
    | fault f => exact ⟨_, _, rfl, he⟩

theorem lockStep_finish {f g : Value → Run σ Rendering}
    (h : ∀ v, LockStep Failure.Unresolved (f v) (g v)) (answer : Answer) :
    LockStep Failure.Unresolved (finish f answer) (finish g answer) := by
  cases answer with
  | rendering r =>
    simp only [finish]
    exact .refl _
  | value v => exact h v

theorem lockStep_finishPair {f g : Value → Run σ Rendering}
    (h : ∀ v, LockStep Failure.Unresolved (f v) (g v)) (answer : Answer) :
    LockStep Failure.Unresolved (finishPair f answer) (finishPair g answer) := by
  cases answer with
  | rendering r =>
    simp only [finishPair]
    exact .refl _
  | value v =>
    simp only [finishPair]
    cases pair? v with
    | some r => exact .refl _
    | none => exact h v

/-- At one depth, all functions of the two engines keep in lock step. -/
structure InLockStep (depth : Nat) : Prop where
  nodes : ∀ t c, LockStep Failure.Unresolved ((strict host escape).renderNodes depth t c)
    ((lenient host escape).renderNodes depth t c)
  variableTag : ∀ tag v c, LockStep Failure.Unresolved
    ((strict host escape).renderVariable depth tag v c)
    ((lenient host escape).renderVariable depth tag v c)
  sectionTag : ∀ tag v c, LockStep Failure.Unresolved
    ((strict host escape).renderSection depth tag v c)
    ((lenient host escape).renderSection depth tag v c)
  item : ∀ tag v c, LockStep Failure.Unresolved ((strict host escape).renderItem depth tag v c)
    ((lenient host escape).renderItem depth tag v c)
  value : ∀ tag v c, LockStep Failure.Unresolved ((strict host escape).renderValue depth tag v c)
    ((lenient host escape).renderValue depth tag v c)

variable {host escape} {depth : Nat}

theorem InLockStep.contentOf (ih : InLockStep host escape depth) (tag : Tag) (c : Context) :
    LockStep Failure.Unresolved
      (Engine.contentOf tag ((strict host escape).renderNodes depth) c)
      (Engine.contentOf tag ((lenient host escape).renderNodes depth) c) := by
  unfold Engine.contentOf
  split
  · exact (ih.nodes _ c).bind fun s => .refl _
  · exact .refl _

theorem InLockStep.valueFor (ih : InLockStep host escape depth) (tag : Tag) (v : Value)
    (c : Context) :
    LockStep Failure.Unresolved
      (Engine.valueFor tag ((strict host escape).renderSection depth tag)
        ((strict host escape).renderValue depth tag) v c)
      (Engine.valueFor tag ((lenient host escape).renderSection depth tag)
        ((lenient host escape).renderValue depth tag) v c) := by
  unfold Engine.valueFor
  split
  · exact (ih.sectionTag tag v c).bind fun p => .refl _
  · exact ih.value tag v c

theorem InLockStep.handlers (ih : InLockStep host escape depth) (tag : Tag) :
    Script.Handlers.LockStep Failure.Unresolved
      ((strict host escape).handlers tag ((strict host escape).renderNodes depth)
        ((strict host escape).renderSection depth tag) ((strict host escape).renderValue depth tag))
      ((lenient host escape).handlers tag ((lenient host escape).renderNodes depth)
        ((lenient host escape).renderSection depth tag)
        ((lenient host escape).renderValue depth tag)) := by
  -- The fields are unfolded first: no step may compare the two engines as a whole.
  constructor <;> simp only [Engine.handlers]
  · exact ih.contentOf tag
  · exact ih.valueFor tag
  · exact ih.nodes
  · funext s
    simp only [escapeFor]
  · exact .refl _

/-- Renderables ask the engine in lock step, and no other value asks it for more than its items. -/
theorem InLockStep.succ_value (ih : InLockStep host escape depth) (tag : Tag) (v : Value)
    (c : Context) :
    LockStep Failure.Unresolved ((strict host escape).renderValue (depth + 1) tag v c)
      ((lenient host escape).renderValue (depth + 1) tag v c) := by
  rcases hi : v.joinedItems? with _ | items
  · by_cases hr : v.isRenderable = true
    · cases v with
      | eager text safe =>
        simp only [renderValue]
        exact .refl _
      | deferred name captured =>
        simp only [renderValue]
        refine LockStep.wrap ?_ fun error => id
        refine (Script.lockStep_run (ih.handlers tag) _).bind fun answer => ?_
        exact lockStep_finishPair (fun u => ih.value tag u c) answer
      | pending body captured arguments =>
        simp only [renderValue]
        refine LockStep.wrap ?_ fun error => id
        refine (LockStep.each fun a _ => (ih.handlers tag).value a c).bind fun rs => ?_
        refine LockStep.bind (.refl _) fun u => ?_
        exact lockStep_finish (fun u => ih.value tag u c) (transformed rs u)
      | custom label name captured =>
        simp only [renderValue]
        refine LockStep.bind (LockStep.wrap ?_ fun error => id) fun answer => .refl _
        exact Script.lockStep_run (ih.handlers tag) _
      | eachItem item index last key =>
        simp only [renderValue]
        refine LockStep.wrap ?_ fun error => id
        split
        · exact (ih.handlers tag).content _
        · exact ih.value tag item c
      | _ => simp [Value.isRenderable] at hr
    · rw [renderValue_leaf _ hi (by simpa using hr), renderValue_leaf _ hi (by simpa using hr)]
      exact .refl _
  · rw [renderValue_of_items _ hi, renderValue_of_items _ hi]
    exact (LockStep.eachItem (fun v => ih.value tag v c) items).bind fun rs => .refl _

theorem inLockStep (depth : Nat) : InLockStep host escape depth := by
  induction depth with
  | zero => constructor <;> intros <;> exact .refl _
  | succ depth ih =>
    refine ⟨?_, ?_, ?_, ?_, fun tag v c => ih.succ_value tag v c⟩
    · intro t c
      simp only [renderNodes]
      refine LockStep.bind (LockStep.each fun n _ => ?_) fun texts => .refl _
      cases n with
      | text s => exact .refl _
      | variableTag head escaped =>
        exact lockStep_visit host escape _ _ c fun tag v => ih.variableTag tag v c
      | sectionTag head inverted children inner =>
        refine lockStep_visit host escape _ _ c fun tag v => ?_
        exact (ih.sectionTag tag v c).bind fun p => .refl _
    · intro tag v c
      simp only [renderVariable]
      cases v.items? with
      | some items =>
        exact (LockStep.eachItem (fun v => ih.variableTag tag v c) items).bind fun ts => .refl _
      | none => exact (ih.value tag v c).bind fun r => .refl _
    · intro tag v c
      simp only [renderSection]
      split
      · refine LockStep.bind (.refl _) fun truthy => ?_
        split
        · exact .refl _
        · exact (ih.nodes _ c).bind fun s => .refl _
      · cases v.items? with
        | some items =>
          exact (LockStep.eachItem (fun v => ih.item tag v c) items).bind fun ts => .refl _
        | none =>
          refine LockStep.bind (.refl _) fun shown => ?_
          split
          · exact ih.item tag v c
          · exact .refl _
    · intro tag v c
      simp only [renderItem]
      split
      · exact (ih.value tag v c).bind fun r => .refl _
      · exact (ih.nodes _ _).bind fun s => .refl _

/-- A strict run differs from the lenient run only by an unresolved name. Its text is the lenient
text, any other failure of it is the lenient failure, and where the lenient run meets an
unresolved name, in a call or in a block of the host, the strict run meets one too. This holds at
every depth, so for `render` too. -/
theorem strict_adds_only_unresolved (host : Host σ) (escape : Passage → Passage) (depth : Nat)
    (t : Template) (c : Context) (w : World σ) :
    (∀ s w', (strict host escape).renderNodes depth t c w = (.done s, w') →
      (lenient host escape).renderNodes depth t c w = (.done s, w')) ∧
    (∀ failure w', (strict host escape).renderNodes depth t c w = (.failed failure, w') →
      ¬ failure.Unresolved →
      (lenient host escape).renderNodes depth t c w = (.failed failure, w')) ∧
    (∀ failure w', (lenient host escape).renderNodes depth t c w = (.failed failure, w') →
      failure.Unresolved →
      ∃ other w'', (strict host escape).renderNodes depth t c w = (.failed other, w'') ∧
        other.Unresolved) := by
  rcases (inLockStep depth).nodes t c w with ⟨other, w'', hs, hu⟩ | heq
  · refine ⟨?_, ?_, ?_⟩
    · intro s w' h
      cases hs.symm.trans h
    · intro failure w' h hn
      cases hs.symm.trans h
      exact absurd hu hn
    · intro _ _ _ _
      exact ⟨other, w'', hs, hu⟩
  · refine ⟨?_, ?_, ?_⟩
    · intro s w' h
      rw [← heq, h]
    · intro failure w' h _
      rw [← heq, h]
    · intro failure w' h hu
      exact ⟨failure, w', heq.trans h, hu⟩

end Engine

end Stencil
