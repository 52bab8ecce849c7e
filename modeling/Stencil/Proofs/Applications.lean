-- Applications of filters. Each runs the block of its filter once, or keeps its arguments for a
-- textual filter, and nothing else. In the course of an evaluation the calls of an expression are
-- due one after the other, each behind those in what it calls and in its arguments.
import Stencil.Proofs.Positions

namespace Stencil

variable {σ : Type}

/-! ## Runs that end -/

/-- How a run ends that is not nested too deeply. -/
def Outcome.of {α : Type} : Except Failure α → Outcome α
  | .ok a => .done a
  | .error failure => .failed failure

theorem Outcome.of_inj {α : Type} {x y : Except Failure α} (h : of x = of y) : x = y := by
  cases x <;> cases y <;> cases h <;> rfl

namespace Run

variable {α β : Type}

/-- The run is never nested too deeply. -/
def Settles (r : Run σ α) : Prop := ∀ w, ∃ x w', r w = (Outcome.of x, w')

theorem settles_pure (a : α) : (pure a : Run σ α).Settles := fun w => ⟨.ok a, w, rfl⟩

theorem settles_fail (failure : Failure) : (fail failure : Run σ α).Settles :=
  fun w => ⟨.error failure, w, rfl⟩

theorem settles_outside (f : Outside σ → α × Outside σ) : (outside f).Settles :=
  fun w => ⟨.ok (f w.outside).1, _, rfl⟩

theorem Settles.bind {r : Run σ α} {f : α → Run σ β} (hr : r.Settles) (hf : ∀ a, (f a).Settles) :
    (r >>= f).Settles := by
  intro w
  obtain ⟨x, w₁, ran⟩ := hr w
  rw [bind_apply, ran]
  cases x with
  | error failure => exact ⟨.error failure, w₁, rfl⟩
  | ok a => exact hf a w₁

theorem settles_drain {f : Value → Run σ β} (h : ∀ v, (f v).Settles) (id : Nat)
    (items : List Value) (ending : Option Failure) (bound : Nat) :
    (drain f id items ending bound).Settles := by
  induction bound with
  | zero => exact settles_pure _
  | succ bound ih =>
    refine (settles_outside _).bind fun next => ?_
    cases next with
    | ended => exact settles_pure _
    | raised failure => exact settles_fail failure
    | item item => exact (h item).bind fun b => ih.bind fun bs => settles_pure _

theorem settles_eachItem_pure (items : Items) :
    (eachItem pure items : Run σ (List Value)).Settles := by
  cases items with
  | fixed items =>
    rw [eachItem, each_pure]
    exact settles_pure _
  | stream id items ending => exact settles_drain settles_pure id items ending _

end Run

theorem Host.settles_run (host : Host σ) (name : String) (captured arguments : List Value) :
    (host.run name captured arguments).Settles := by
  intro w
  unfold run
  rcases host.call name captured arguments w.outside with ⟨failure | v, o⟩
  · exact ⟨.error failure, _, rfl⟩
  · exact ⟨.ok v, _, rfl⟩

theorem Library.settles_each (v : Value) : (each v : Run σ (List Value)).Settles := by
  unfold each
  split
  · exact Run.settles_pure _
  · exact Run.settles_pure _
  · exact Run.settles_pure _
  · split
    · exact (Run.settles_eachItem_pure _).bind fun items => Run.settles_pure _
    · exact Run.settles_fail _

theorem ValueFunction.settles_call (f : ValueFunction) (arguments : List Value) :
    (f.call arguments : Run σ Value).Settles := by
  unfold call
  split
  · unfold apply
    split
    · cases f with
      | isEmpty | isBlank => exact Run.settles_pure _
      | each => exact (Library.settles_each _).bind fun items => Run.settles_pure _
    · exact Run.settles_fail _
  · exact Run.settles_fail _
  · exact Run.settles_fail _

/-! ## Applications -/

/-- An application of a filter: the call that asks for it, what it receives, and the world in which
it happens. -/
structure Application (σ : Type) where
  callee : Expr
  operands : List Expr
  filter : Filter
  captured : List Value
  arguments : List Value
  world : World σ

namespace Application

variable {host : Host σ} {a : Application σ}

/-- The call that asks for the application, by what is called and for which arguments. -/
def site (a : Application σ) : Expr × List Expr := (a.callee, a.operands)

/-- What the application runs, under its name. -/
def block? (host : Host σ) (a : Application σ) : Option (String × Run σ Value) :=
  a.filter.block? host a.callee.text a.captured a.arguments

/-- What comes of an application, and the world behind it: its block is run, once, or its arguments
are kept for a textual filter. -/
inductive Gives (host : Host σ) (a : Application σ) : Except Failure Value → World σ → Prop
  | kept {body : Body TextFunction} : a.filter = .textual body →
    Gives host a (.ok (.pending body a.captured a.arguments)) a.world
  | ran {name : String} {block : Run σ Value} {x : Except Failure Value} {w : World σ} :
    a.block? host = some (name, block) → block a.world = (Outcome.of x, w) →
    Gives host a (x.mapError fun raised => .fault ((Origin.filter name).fault raised)) w

theorem not_textual_of_block? {name : String} {block : Run σ Value} {body : Body TextFunction}
    (h : a.block? host = some (name, block)) : a.filter ≠ .textual body := by
  intro textual
  rw [block?, textual] at h
  cases h

/-- An application gives one thing only. -/
theorem Gives.unique {x x' : Except Failure Value} {w w' : World σ} (h : a.Gives host x w)
    (h' : a.Gives host x' w') : (x, w) = (x', w') := by
  cases h with
  | kept textual =>
    cases h' with
    | kept textual' =>
      rw [textual] at textual'
      cases textual'
      rfl
    | ran block _ => exact absurd textual (not_textual_of_block? block)
  | ran block ended =>
    cases h' with
    | kept textual => exact absurd textual (not_textual_of_block? block)
    | ran block' ended' =>
      rw [block] at block'
      cases block'
      rw [ended] at ended'
      obtain ⟨same, rfl⟩ := Prod.mk.inj ended'
      rw [Outcome.of_inj same]

end Application

namespace Filter

variable {host : Host σ} {f : Filter} {callee name : String} {captured arguments : List Value}
  {block : Run σ Value}

theorem exists_textual (h : f.block? host callee captured arguments = none) :
    ∃ body, f = .textual body := by
  cases f with
  | textual body => exact ⟨body, rfl⟩
  | generic body => cases body <;> cases h
  | variadic name | custom label name => cases h

theorem settles_block (h : f.block? host callee captured arguments = some (name, block)) :
    block.Settles := by
  cases f with
  | generic body =>
    cases body with
    | library function =>
      cases h
      exact function.settles_call arguments
    | host name =>
      cases h
      exact host.settles_run _ _ _
  | textual body => cases h
  | variadic name | custom label name =>
    cases h
    exact host.settles_run _ _ _

/-- Applying a filter runs its block, whose failures go by the name of the block. -/
theorem wrap_apply_of_block (h : f.block? host callee captured arguments = some (name, block)) :
    (f.apply host captured arguments).wrap (.filterFailed callee) =
      block.wrap (.filterFailed name) := by
  cases f with
  | generic body => cases body <;> (cases h; exact Run.wrap_wrap _ _ _)
  | textual body => cases h
  | variadic name =>
    cases h
    exact Run.wrap_wrap _ _ _
  | custom label name =>
    cases h
    rfl

end Filter

/-- A filter is applied as the evaluator does it. -/
theorem Application.exists_gives (host : Host σ) (a : Application σ) :
    ∃ x w, a.Gives host x w ∧
      (a.filter.apply host a.captured a.arguments).wrap (.filterFailed a.callee.text) a.world =
        (Outcome.of x, w) := by
  rcases is : a.block? host with _ | ⟨name, block⟩
  · obtain ⟨body, textual⟩ := Filter.exists_textual is
    refine ⟨_, _, .kept textual, ?_⟩
    rw [textual]
    rfl
  · obtain ⟨x, w, ended⟩ := Filter.settles_block is a.world
    refine ⟨_, _, .ran is ended, ?_⟩
    rw [Filter.wrap_apply_of_block is, Run.wrap_apply, ended]
    rcases x with (_ | _) | _ <;> rfl

/-! ## Applications in order -/

namespace Expr

mutual

/-- The calls in an expression, each behind those in what it calls and in its arguments. -/
def sites : Expr → List (Expr × List Expr)
  | .name _ | .top => []
  | .key b _ => b.sites
  | .call f a r => f.sites ++ (a.sites ++ sitesList r) ++ [(f, a :: r)]

def sitesList : List Expr → List (Expr × List Expr)
  | [] => []
  | a :: r => a.sites ++ sitesList r

end

end Expr

/-- The course of an evaluation for which these calls are due: they are applied one after the other,
each to values only and in the world that the one before it has left, until all are done or there is
a failure. -/
inductive Course (host : Host σ) :
    List (Expr × List Expr) → World σ → List (Application σ) → Option Failure → World σ → Prop
  | done {w : World σ} : Course host [] w [] none w
  | stopped {due : List (Expr × List Expr)} {failure : Failure} {w : World σ} :
    Course host due w [] (some failure) w
  | failed {due : List (Expr × List Expr)} {a : Application σ} {failure : Failure} {w : World σ} :
    (∀ v ∈ a.arguments, v.isMissing = false) → a.Gives host (.error failure) w →
    Course host (a.site :: due) a.world [a] (some failure) w
  | next {due : List (Expr × List Expr)} {a : Application σ} {v : Value}
    {l : List (Application σ)} {failure : Option Failure} {w w' : World σ} :
    (∀ v ∈ a.arguments, v.isMissing = false) → a.Gives host (.ok v) w →
    Course host due w l failure w' → Course host (a.site :: due) a.world (a :: l) failure w'

/-- The failure that ends an evaluation. -/
def failure? {α : Type} : Except Failure α → Option Failure
  | .ok _ => none
  | .error failure => some failure

namespace Course

variable {host : Host σ} {due more : List (Expr × List Expr)} {l m : List (Application σ)}
  {failure : Option Failure} {w w₁ w' : World σ}

theorem append (h : Course host due w l none w₁) (h' : Course host more w₁ m failure w') :
    Course host (due ++ more) w (l ++ m) failure w' := by
  generalize before : (none : Option Failure) = f at h
  induction h with
  | done => exact h'
  | stopped | failed => cases before
  | next full gives _ ih => exact .next full gives (ih h' before)

/-- After a failure nothing else is applied. -/
theorem skip {raised : Failure} (h : Course host due w l (some raised) w') :
    Course host (due ++ more) w l (some raised) w' := by
  generalize after : some raised = f at h ⊢
  induction h with
  | done => cases after
  | stopped => exact .stopped
  | failed full gives => exact .failed full gives
  | next full gives _ ih => exact .next full gives (ih after)

/-- A failure between two applications. -/
theorem stop (h : Course host due w l none w') (raised : Failure) :
    Course host (due ++ more) w l (some raised) w' := by
  have after : Course host more w' [] (some raised) w' := .stopped
  have course := h.append after
  rwa [List.append_nil] at course

/-- With no more calls due, an evaluation may still fail. -/
theorem ended {α : Type} (h : Course host due w l none w') (y : Except Failure α) :
    Course host due w l (failure? y) w' := by
  cases y with
  | ok a => exact h
  | error raised =>
    have course : Course host (due ++ []) w l (some raised) w' := h.stop raised
    rwa [List.append_nil] at course

theorem single {a : Application σ} {y : Except Failure Value}
    (full : ∀ v ∈ a.arguments, v.isMissing = false) (gives : a.Gives host y w') :
    Course host [a.site] a.world [a] (failure? y) w' := by
  cases y with
  | ok v => exact .next full gives .done
  | error failure => exact .failed full gives

end Course

end Stencil
