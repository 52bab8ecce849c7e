-- What the bound on nested calls changes. A run that ends within its bound is the same run under
-- every greater bound, so the bound only decides whether a template is rendered, never how.
import Stencil.Proofs.Tasks

namespace Stencil

/-! ## Runs within a bound -/

namespace Run

variable {σ α β : Type}

/-- The first run is nested too deeply, or the runs agree. -/
def Within (r s : Run σ α) : Prop := ∀ w, (r w).1 = .exhausted ∨ r w = s w

theorem Within.refl (r : Run σ α) : Within r r := fun _ => .inr rfl

theorem Within.bind {r s : Run σ α} {f g : α → Run σ β} (h : Within r s)
    (hf : ∀ a, Within (f a) (g a)) : Within (r >>= f) (s >>= g) := by
  intro w
  rw [bind_apply, bind_apply]
  rcases h w with exhausted | same
  · have stopped : r w = (.exhausted, (r w).2) := Prod.ext exhausted rfl
    rw [stopped]
    exact .inl rfl
  · rw [same]
    rcases s w with ⟨a | failure | _, w'⟩
    · exact hf a w'
    · exact .inr rfl
    · exact .inl rfl

theorem Within.onFailure {r s : Run σ α} (h : Within r s) (f : Failure → Run σ Failure) :
    Within (r.onFailure f) (s.onFailure f) := by
  intro w
  unfold Run.onFailure
  rcases h w with exhausted | same
  · have stopped : r w = (.exhausted, (r w).2) := Prod.ext exhausted rfl
    rw [stopped]
    exact .inl rfl
  · rw [same]
    exact .inr rfl

theorem Within.wrap {r s : Run σ α} (h : Within r s) (cause : HostError → Cause) :
    Within (r.wrap cause) (s.wrap cause) := h.onFailure _

theorem Within.each {f g : α → Run σ β} (h : ∀ a, Within (f a) (g a)) (l : List α) :
    Within (Run.each f l) (Run.each g l) := by
  induction l with
  | nil => exact .refl _
  | cons a rest ih => exact (h a).bind fun b => ih.bind fun bs => .refl _

theorem Within.drain {f g : Value → Run σ β} (h : ∀ v, Within (f v) (g v)) (id : Nat)
    (items : List Value) (ending : Option Failure) (bound : Nat) :
    Within (Run.drain f id items ending bound) (Run.drain g id items ending bound) := by
  induction bound with
  | zero => exact .refl _
  | succ bound ih =>
    refine Within.bind (.refl _) fun next => ?_
    cases next with
    | ended => exact .refl _
    | raised failure => exact .refl _
    | item item => exact (h item).bind fun b => ih.bind fun bs => .refl _

theorem Within.eachItem {f g : Value → Run σ β} (h : ∀ v, Within (f v) (g v)) (items : Items) :
    Within (Run.eachItem f items) (Run.eachItem g items) := by
  cases items with
  | fixed items => exact Within.each h items
  | stream id items ending => exact Within.drain h id items ending _

end Run

open Run (Within)

variable {σ : Type}

/-! ## Scripts -/

/-- Handlers that meet the same requests alike, unless the first are nested too deeply. -/
structure Script.Handlers.Within (h k : Handlers σ) : Prop where
  content : ∀ c, Run.Within (h.content c) (k.content c)
  value : ∀ v c, Run.Within (h.value v c) (k.value v c)
  template : ∀ t c, Run.Within (h.template t c) (k.template t c)
  escape : h.escape = k.escape
  state : h.state = k.state

/-- A script gets the same answers until a request of it is nested too deeply. -/
theorem Script.within_run {h k : Handlers σ} (hk : h.Within k) (script : Script σ) :
    Within (script.run h) (script.run k) := by
  induction script with
  | done answer => exact .refl _
  | fail failure => exact .refl _
  | content c next ih => exact (hk.content c).bind ih
  | value v c next ih => exact (hk.value v c).bind ih
  | template t c next ih => exact (hk.template t c).bind ih
  | escape s next ih =>
    rw [Script.run, Script.run, hk.escape]
    exact ih _
  | state next ih =>
    rw [Script.run, Script.run, hk.state]
    exact Within.bind (.refl _) ih
  | outside change next ih => exact Within.bind (.refl _) ih

/-! ## The engine -/

namespace Engine

variable {e : Engine σ} {n m : Nat}

theorem within_visit {α : Type} (head : Head) (form : Form) (c : Context)
    {f g : Tag → Value → Run σ α} (h : ∀ tag v, Within (f tag v) (g tag v)) :
    Within (e.visit head form c f) (e.visit head form c g) := by
  refine Within.bind (.refl _) fun tag => Within.onFailure ?_ _
  refine Within.bind (.refl _) fun _ => Within.bind (.refl _) fun v => ?_
  refine Within.bind (.refl _) fun _ => Within.bind (.refl _) fun _ => ?_
  exact (h tag v).bind fun answer => .refl _

theorem within_finish {f g : Value → Run σ Rendering} (h : ∀ v, Within (f v) (g v))
    (answer : Answer) : Within (finish f answer) (finish g answer) := by
  cases answer with
  | rendering r => exact .refl _
  | value v => exact h v

theorem within_finishPair {f g : Value → Run σ Rendering} (h : ∀ v, Within (f v) (g v))
    (answer : Answer) : Within (finishPair f answer) (finishPair g answer) := by
  cases answer with
  | rendering r => exact .refl _
  | value v =>
    simp only [finishPair]
    cases pair? v with
    | some r => exact .refl _
    | none => exact h v

/-- What ends at the first depth ends alike at the second. -/
structure Deepens (e : Engine σ) (n m : Nat) : Prop where
  nodes : ∀ t c, Within (e.renderNodes n t c) (e.renderNodes m t c)
  variableTag : ∀ tag v c, Within (e.renderVariable n tag v c) (e.renderVariable m tag v c)
  sectionTag : ∀ tag v c, Within (e.renderSection n tag v c) (e.renderSection m tag v c)
  item : ∀ tag v c, Within (e.renderItem n tag v c) (e.renderItem m tag v c)
  value : ∀ tag v c, Within (e.renderValue n tag v c) (e.renderValue m tag v c)

theorem Deepens.handlers (h : e.Deepens n m) (tag : Tag) :
    (e.handlersAt n tag).Within (e.handlersAt m tag) where
  content c := by
    unfold handlersAt Engine.handlers contentOf
    split
    · exact (h.nodes _ c).bind fun s => .refl _
    · exact .refl _
  value v c := by
    unfold handlersAt Engine.handlers valueFor
    split
    · exact (h.sectionTag tag v c).bind fun p => .refl _
    · exact h.value tag v c
  template := h.nodes
  escape := rfl
  state := rfl

theorem Deepens.succ_value (h : e.Deepens n m) (tag : Tag) (v : Value) (c : Context) :
    Within (e.renderValue (n + 1) tag v c) (e.renderValue (m + 1) tag v c) := by
  have handlers := h.handlers tag
  rcases hi : v.joinedItems? with _ | items
  · by_cases hr : v.isRenderable = true
    · cases v with
      | eager text safe =>
        simp only [renderValue]
        exact .refl _
      | deferred name captured =>
        simp only [renderValue]
        refine Within.wrap ((Script.within_run handlers _).bind fun answer => ?_) _
        exact within_finishPair (fun u => h.value tag u c) answer
      | pending body captured arguments =>
        simp only [renderValue]
        refine Within.wrap ((Within.each (fun a => handlers.value a c) _).bind fun rs => ?_) _
        refine Within.bind (.refl _) fun u => ?_
        exact within_finish (fun u => h.value tag u c) (transformed rs u)
      | custom label name captured =>
        simp only [renderValue]
        exact ((Script.within_run handlers _).wrap _).bind fun answer => .refl _
      | eachItem item index last key =>
        simp only [renderValue]
        refine Within.wrap ?_ _
        split
        · exact handlers.content _
        · exact h.value tag item c
      | _ => cases hr
    · have plain : v.isRenderable = false := by simpa using hr
      rw [renderValue_leaf _ hi plain, renderValue_leaf _ hi plain]
      exact .refl _
  · rw [renderValue_of_items _ hi, renderValue_of_items _ hi]
    exact (Within.eachItem (fun v => h.value tag v c) items).bind fun rs => .refl _

theorem Deepens.succ (h : e.Deepens n m) : e.Deepens (n + 1) (m + 1) where
  nodes t c := by
    rw [renderNodes_succ, renderNodes_succ]
    refine (Within.each (fun node => ?_) t).bind fun texts => .refl _
    have tags (tag : Tag) (v : Value) : Within (e.renderTag n c tag v) (e.renderTag m c tag v) := by
      unfold renderTag
      split
      · exact h.variableTag tag v c
      · exact (h.sectionTag tag v c).bind fun p => .refl _
    cases node with
    | text s => exact .refl _
    | variableTag head escaped => exact within_visit head _ c tags
    | sectionTag head inverted children inner => exact within_visit head _ c tags
  variableTag tag v c := by
    simp only [renderVariable]
    cases v.items? with
    | some items =>
      exact (Within.eachItem (fun u => h.variableTag tag u c) items).bind fun ts => .refl _
    | none => exact (h.value tag v c).bind fun r => .refl _
  sectionTag tag v c := by
    simp only [renderSection]
    split
    · refine Within.bind (.refl _) fun truth => ?_
      split
      · exact .refl _
      · exact (h.nodes _ c).bind fun s => .refl _
    · cases v.items? with
      | some items =>
        exact (Within.eachItem (fun u => h.item tag u c) items).bind fun ts => .refl _
      | none =>
        refine Within.bind (.refl _) fun shown => ?_
        split
        · exact h.item tag v c
        · exact .refl _
  item tag v c := by
    simp only [renderItem]
    split
    · exact (h.value tag v c).bind fun r => .refl _
    · exact (h.nodes _ _).bind fun s => .refl _
  value := h.succ_value

end Engine

end Stencil
