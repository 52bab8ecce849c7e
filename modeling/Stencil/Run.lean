-- Computations of the engine. A run reads and changes what lies outside the templates and the
-- journal of tags; it ends with a value, with a failure, or by running out of depth.
import Stencil.Fault
import Stencil.Value.Basic

namespace Stencil

/-! ## State -/

/-- How far a tag has come. -/
inductive TagState where
  | unresolved
  | resolving
  | resolved
  | rendering
  | rendered
  | failed
  deriving DecidableEq, Repr

def TagState.name : TagState → String
  | .unresolved => "unresolved"
  | .resolving => "resolving"
  | .resolved => "resolved"
  | .rendering => "rendering"
  | .rendered => "rendered"
  | .failed => "failed"

/-- The tags of a run: how many were created, and every change of their states, latest first. A tag
is known by the number of tags created before it. -/
structure Journal where
  created : Nat
  moves : List (Nat × TagState)

namespace Journal

def empty : Journal := ⟨0, []⟩

/-- The journal with a new tag. -/
def create (j : Journal) : Journal := ⟨j.created + 1, (j.created, .unresolved) :: j.moves⟩

/-- The journal with a tag in a new state. -/
def move (j : Journal) (tag : Nat) (state : TagState) : Journal :=
  { j with moves := (tag, state) :: j.moves }

/-- The state of a tag now. -/
def stateOf (j : Journal) (tag : Nat) : TagState := (j.moves.lookup tag).getD .unresolved

end Journal

/-- What lies outside the templates: the state of the host, and how many items each stream has
handed out. -/
structure Outside (σ : Type) where
  host : σ
  pulled : Nat → Nat

/-- What a stream gives when it is asked for an item. -/
inductive Draw where
  | item (item : Value)
  | raised (failure : Failure)
  | ended

/-- What a stream gives after it was asked successfully a number of times; the failure behind its
items is raised once. -/
def Draw.after (pulled : Nat) (items : List Value) (ending : Option Failure) : Draw :=
  match items[pulled]?, ending with
  | some v, _ => .item v
  | none, some failure => if pulled = items.length then .raised failure else .ended
  | none, none => .ended

/-- What a stream gives next, and what is outside after that. -/
def Outside.pull {σ : Type} (o : Outside σ) (id : Nat) (items : List Value)
    (ending : Option Failure) : Draw × Outside σ :=
  match Draw.after (o.pulled id) items ending with
  | .ended => (.ended, o)
  | next => (next, { o with pulled := fun n => if n = id then o.pulled n + 1 else o.pulled n })

structure World (σ : Type) where
  outside : Outside σ
  journal : Journal

/-- A world in which nothing has happened yet. -/
def World.start {σ : Type} (host : σ) : World σ := ⟨⟨host, fun _ => 0⟩, .empty⟩

/-! ## Runs -/

inductive Outcome (α : Type) where
  | done (value : α)
  | failed (failure : Failure)
  /-- The run was nested too deeply. -/
  | exhausted

def Run (σ α : Type) : Type := World σ → Outcome α × World σ

namespace Run

variable {σ α β : Type}

protected def pure (a : α) : Run σ α := fun w => (.done a, w)

protected def bind (r : Run σ α) (f : α → Run σ β) : Run σ β := fun w =>
  match r w with
  | (.done a, w) => f a w
  | (.failed e, w) => (.failed e, w)
  | (.exhausted, w) => (.exhausted, w)

instance : Monad (Run σ) where
  pure := Run.pure
  bind := Run.bind

@[simp] theorem pure_apply (a : α) (w : World σ) : (pure a : Run σ α) w = (.done a, w) := rfl

theorem bind_apply (r : Run σ α) (f : α → Run σ β) (w : World σ) :
    (r >>= f) w =
      match r w with
      | (.done a, w) => f a w
      | (.failed e, w) => (.failed e, w)
      | (.exhausted, w) => (.exhausted, w) := rfl

theorem id_map_run (r : Run σ α) : id <$> r = r := by
  funext w
  show Run.bind r _ w = _
  unfold Run.bind
  rcases r w with ⟨_ | _ | _, w⟩ <;> rfl

theorem bind_assoc_run {γ : Type} (r : Run σ α) (f : α → Run σ β) (g : β → Run σ γ) :
    r >>= f >>= g = r >>= fun a => f a >>= g := by
  funext w
  show Run.bind (Run.bind r f) g w = Run.bind r (fun a => Run.bind (f a) g) w
  unfold Run.bind
  rcases r w with ⟨_ | _ | _, w⟩ <;> rfl

instance : LawfulMonad (Run σ) :=
  LawfulMonad.mk' (Run σ) id_map_run (fun _ _ => rfl) bind_assoc_run

def fail (e : Failure) : Run σ α := fun w => (.failed e, w)

def exhaust : Run σ α := fun w => (.exhausted, w)

/-- A fault whose place is not known yet. -/
def failWith (cause : Cause) : Run σ α := fail (.fault ⟨cause, none⟩)

/-- What a failure becomes, and what happens before it goes on. -/
def onFailure (r : Run σ α) (f : Failure → Run σ Failure) : Run σ α := fun w =>
  match r w with
  | (.failed e, w) => (f e >>= fail) w
  | ended => ended

/-- The run with its faults as values; errors of the host still end it. -/
def attempt (r : Run σ α) : Run σ (Except Fault α) := fun w =>
  match r w with
  | (.done a, w) => (.done (.ok a), w)
  | (.failed (.fault f), w) => (.done (.error f), w)
  | (.failed e, w) => (.failed e, w)
  | (.exhausted, w) => (.exhausted, w)

/-- The run with the errors of the host as faults. -/
def wrap (cause : HostError → Cause) (r : Run σ α) : Run σ α :=
  r.onFailure fun
    | .host error => pure (.fault ⟨cause error, none⟩)
    | failure => pure failure

/-- A computation that only may raise an error of the host. -/
def ofExcept : Except HostError α → Run σ α
  | .ok a => pure a
  | .error e => fail (.host e)

/-- A step outside the templates. -/
def outside (f : Outside σ → α × Outside σ) : Run σ α := fun w =>
  let (a, o) := f w.outside
  (.done a, { w with outside := o })

/-- A change of the journal, and its state before. -/
def journal (f : Journal → Journal) : Run σ Journal := fun w =>
  (.done w.journal, { w with journal := f w.journal })

/-! ## Going through items -/

/-- A run for each element, in order. -/
def each (f : α → Run σ β) : List α → Run σ (List β)
  | [] => pure []
  | a :: rest => do
    let b ← f a
    let bs ← each f rest
    return b :: bs

/-- A run for each item that a stream still hands out, asking it at most `bound` times. -/
def drain (f : Value → Run σ β) (id : Nat) (items : List Value) (ending : Option Failure) :
    Nat → Run σ (List β)
  | 0 => pure []
  | bound + 1 => do
    match ← outside (·.pull id items ending) with
    | .ended => return []
    | .raised failure => fail failure
    | .item item => do
      let b ← f item
      let bs ← drain f id items ending bound
      return b :: bs

/-- A run for each item of a sequence, in order. An item of a stream is handed out only when the
run for the one before it has ended. -/
def eachItem (f : Value → Run σ β) : Items → Run σ (List β)
  | .fixed items => each f items
  | .stream id items ending => drain f id items ending (items.length + 1)

end Run

end Stencil
