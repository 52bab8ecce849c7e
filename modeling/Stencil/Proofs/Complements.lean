-- Sections and inverted sections. A section goes through the items of a sequence, or through the
-- value itself if it is true; an inverted section looks at the truth of the value only. Unless the
-- value is a renderable, a stream with nothing left, a sequence whose truth is not that of having
-- items or something that cannot tell its truth, just one of the two has something to render.
import Stencil.Press
import Stencil.Proofs.Chains
import Stencil.Proofs.Positions

namespace Stencil

variable {σ : Type}

/-! ## What a section goes through -/

namespace Value

/-- What a section goes through for a value that is no renderable. -/
def rounds (v : Value) : Items :=
  v.items?.getD (.fixed (if v.truth matches .ok true then [v] else []))

/-- A stream has an item left; any other value may be anything. -/
def Supplied (w : World σ) : Value → Prop
  | .stream _ id items _ => w.outside.pulled id < items.length
  | _ => True

/-- Streams are taken for true, since their size is not known. -/
theorem truth_of_stream {v : Value} {id : Nat} {items : List Value} {ending : Option Failure}
    (h : v.items? = some (.stream id items ending)) : v.truth = .ok true := by
  cases v <;> cases h
  rfl

end Value

namespace Run

variable {β : Type} {f : Value → Run σ β} {w : World σ}

/-- Going through the items comes to none. -/
def Idle (f : Value → Run σ β) (items : Items) (w : World σ) : Prop :=
  ∀ u w', ¬ ComesToItem f items w u w'

theorem idle_fixed {items : List Value} : Idle f (.fixed items) w ↔ items = [] := by
  constructor
  · intro idle
    cases items with
    | nil => rfl
    | cons u rest => exact absurd .here (idle u w)
  · rintro rfl u w' ⟨⟩

theorem not_idle_stream {id : Nat} {items : List Value} {ending : Option Failure}
    (left : w.outside.pulled id < items.length) : ¬ Idle f (.stream id items ending) w := by
  obtain ⟨u, o, pull⟩ : ∃ u o, w.outside.pull id items ending = (.item u, o) := by
    simp [Outside.pull, Draw.after, List.getElem?_eq_getElem left]
  exact fun idle => idle u { w with outside := o } (.here pull)

end Run

namespace Engine

variable {e : Engine σ} {tag tag' : Tag} {v : Value} {c : Context} {w : World σ} {depth : Nat}
  {b : Bool}

/-- What is no renderable has the content of the section rendered, once. -/
theorem renderItem_of_plain (plain : v.isRenderable = false) :
    e.renderItem (depth + 1) tag v c = (do
      return .plain (← e.renderNodes depth tag.children (c.push v []))) := by
  rw [renderItem, if_neg (by simp [plain])]

/-- A section is what it goes through, in a row. -/
theorem renderSection_rounds (upright : tag.isInverted = false) (plain : v.isRenderable = false)
    (told : v.truth = .ok b) :
    e.renderSection (depth + 1) tag v c = (do
      let passages ← v.rounds |> Run.eachItem fun u => e.renderItem depth tag u c
      return .plain (String.join (passages.map (·.text)))) := by
  rcases is : v.items? with _ | items
  · simp only [renderSection, upright, is, v.isShown_eq, told, Value.rounds, Option.getD_none]
    cases b with
    | false => rfl
    | true =>
      cases depth with
      | zero => rfl
      | succ depth =>
        simp [Run.ofExcept, Run.eachItem, Run.each, renderItem_of_plain plain, Passage.plain]
  · simp [renderSection, upright, is, Value.rounds]

/-- With no stream that has run dry, and with the truth of having items, a section has nothing to go
through just if the value is false. -/
theorem idle_rounds {β : Type} {f : Value → Run σ β} (candid : v.Candid) (supplied : v.Supplied w)
    (told : v.truth = .ok b) : Run.Idle f v.rounds w ↔ b = false := by
  rcases is : v.items? with _ | items | ⟨id, items, ending⟩
  · rw [Value.rounds, is, Option.getD_none, Run.idle_fixed, told]
    cases b <;> simp
  · cases told.symm.trans (candid items is)
    rw [Value.rounds, is, Option.getD_some, Run.idle_fixed]
    simp
  · have left : w.outside.pulled id < items.length := by
      cases v <;> cases is
      exact supplied
    cases told.symm.trans (Value.truth_of_stream is)
    rw [Value.rounds, is, Option.getD_some]
    simp [Run.not_idle_stream left]

theorem rounds_of_false (candid : v.Candid) (false_ : v.truth = .ok false) :
    v.rounds = .fixed [] := by
  rcases is : v.items? with _ | items | ⟨id, items, ending⟩
  · simp [Value.rounds, is, false_]
  · have none : items = [] := by simpa [false_] using candid items is
    rw [Value.rounds, is, none]
    rfl
  · cases false_.symm.trans (Value.truth_of_stream is)

/-- A section and an inverted section for one value complement each other. The section goes through
the rounds of the value, which have its content rendered, each with its item innermost, but for
renderables among the items. If there is none, the section renders nothing and the inverted section
its content, once and in the context as it is; and if there is one, the inverted section renders
nothing. -/
theorem sections_complement (e : Engine σ) (upright : tag.isInverted = false)
    (inverted : tag'.isInverted = true) (plain : v.isRenderable = false) (candid : v.Candid)
    (supplied : v.Supplied w) (told : v.truth = .ok b) (depth : Nat) (c : Context) :
    e.renderSection (depth + 1) tag v c = (do
        let passages ← v.rounds |> Run.eachItem fun u => e.renderItem depth tag u c
        return .plain (String.join (passages.map (·.text)))) ∧
      (∀ u, u.isRenderable = false → ∀ depth, e.renderItem (depth + 1) tag u c = (do
        return .plain (← e.renderNodes depth tag.children (c.push u [])))) ∧
      (Run.Idle (fun u => e.renderItem depth tag u c) v.rounds w →
        e.renderSection (depth + 1) tag v c w = (.done (.plain ""), w) ∧
        e.renderSection (depth + 1) tag' v c = (do
          return .plain (← e.renderNodes depth tag'.children c))) ∧
      (¬ Run.Idle (fun u => e.renderItem depth tag u c) v.rounds w →
        e.renderSection (depth + 1) tag' v c = pure (.plain "")) := by
  refine ⟨renderSection_rounds upright plain told, fun u bare depth => renderItem_of_plain bare,
    ?_, ?_⟩
  · intro idle
    cases (idle_rounds candid supplied told).1 idle
    constructor
    · rw [renderSection_rounds upright plain told, rounds_of_false candid told]
      rfl
    · simp only [renderSection, inverted, told]
      rfl
  · intro busy
    cases b with
    | false => exact absurd ((idle_rounds candid supplied told).2 rfl) busy
    | true =>
      simp only [renderSection, inverted, told]
      rfl

/-- An engine without functions and renderables that escapes nothing. -/
def bareEngine : Engine Unit := ⟨Host.none, .empty, id⟩

/-- A tag of a section with the content `x`. -/
def markedSection (inverted : Bool) : Tag :=
  ⟨0, ⟨.name "v", ⟨1, 1, none⟩⟩, .sectionTag inverted [.text "x"] "x"⟩

theorem sections_complement_stream :
    (bareEngine.renderSection 3 (markedSection false) (.stream "Iter" 0 [.int 1] none) ⟨[]⟩
        (World.start ())).1 = .done (.plain "x") ∧
      bareEngine.renderSection 3 (markedSection true) (.stream "Iter" 0 [.int 1] none) ⟨[]⟩ =
        pure (.plain "") := by
  have candid : (Value.stream "Iter" 0 [.int 1] none).Candid := fun _ is => nomatch is
  have supplied : (Value.stream "Iter" 0 [.int 1] none).Supplied (World.start ()) := Nat.zero_lt_one
  obtain ⟨rounds, _, _, busy⟩ := @sections_complement Unit (markedSection false)
    (markedSection true) (.stream "Iter" 0 [.int 1] none) (World.start ()) true bareEngine rfl
    rfl rfl candid supplied rfl 2 ⟨[]⟩
  refine ⟨?_, busy (Run.not_idle_stream supplied)⟩
  rw [rounds]
  rfl

end Engine

namespace Press

/-- A page with both sections for one name. -/
def bothSections : String :=
  "\x7b\x7b#v\x7d\x7dx\x7b\x7b/v\x7d\x7d\x7b\x7b^v\x7d\x7dy\x7b\x7b/v\x7d\x7d"

/-- A sequence of one item that takes itself for false. -/
def deniedSequence : Value := .collection ⟨"Pages", false, some (.ok false), none, []⟩ [.int 1] []

/-- Neither section renders its content for a list of renderables, which insert their own texts, nor
for a stream with nothing to hand out; and both do for a sequence with items that is false. -/
theorem neither_section_renders :
    (((start {}).renderSource Host.none bothSections
        (.mapping [(.text "v", .list [.eager "r" true])]) none).1 (World.start ())).1 =
          .done "r" ∧
      (((start {}).renderSource Host.none bothSections
        (.mapping [(.text "v", .stream "Iter" 0 [] none)]) none).1 (World.start ())).1 =
          .done "" ∧
      (((start {}).renderSource Host.none bothSections
        (.mapping [(.text "v", deniedSequence)]) none).1 (World.start ())).1 = .done "xy" := by
  refine ⟨?_, ?_, ?_⟩ <;> cbv

end Press

end Stencil
