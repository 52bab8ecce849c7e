-- How values are rendered, by what they are: the items of a sequence one after the other, a value
-- without items and without a rendering of its own at once, and no section for what cannot tell
-- whether it is true. Proofs about the engine go by these equations instead of its definition.
import Stencil.Render

namespace Stencil.Engine

variable {σ : Type} (e : Engine σ)

/-- How the requests of a script that renders for a tag are met at one depth. -/
def handlersAt (depth : Nat) (tag : Tag) : Script.Handlers σ :=
  e.handlers tag (e.renderNodes depth) (e.renderSection depth tag) (e.renderValue depth tag)

/-- The rendering of a value that is neither a sequence nor a renderable. -/
def leaf : Value → Run σ Rendering
  | .missing | .null | .mapping _ => pure ⟨.plain "", false⟩
  | .text s => pure ⟨.plain s, false⟩
  | v =>
    match v.markup? with
    | some s => pure ⟨.plain s, true⟩
    | none => do return ⟨.plain (← Run.ofExcept v.written), false⟩

theorem renderValue_of_items {v : Value} {items : Items} (h : v.joinedItems? = some items)
    (depth : Nat) (tag : Tag) (c : Context) :
    e.renderValue (depth + 1) tag v c = do
      let rs ← items |> Run.eachItem fun item => e.renderValue depth tag item c
      return joined rs := by
  have found := Value.items?_of_joined h
  cases v <;> simp only [Value.items?, reduceCtorEq] at found <;> simp only [renderValue, h]

theorem renderValue_leaf {v : Value} (h : v.joinedItems? = none) (hr : v.isRenderable = false)
    (depth : Nat) (tag : Tag) (c : Context) : e.renderValue (depth + 1) tag v c = leaf v := by
  cases marked : v.markup? <;> cases v <;>
    simp only [Value.isRenderable, reduceCtorEq] at hr <;> simp only [renderValue, leaf, h, marked]

/-- A value whose truth is asked for and raises an error fails both kinds of sections alike. -/
theorem renderSection_untold {v : Value} {tag : Tag} {error : HostError}
    (asked : tag.isInverted = true ∨ v.items? = none) (raised : v.truth = .error error)
    (depth : Nat) (c : Context) :
    e.renderSection (depth + 1) tag v c = Run.fail (.host error) := by
  cases inverted : tag.isInverted with
  | true =>
    simp only [renderSection, inverted, raised]
    rfl
  | false =>
    have items := asked.resolve_left (by simp [inverted])
    simp only [renderSection, inverted, items, v.isShown_eq, raised]
    rfl

end Stencil.Engine
