-- What a sequence is made of. A variable tag goes down to the leaves of a sequence and inserts each
-- by itself; rendering the sequence as a whole goes through the same leaves, in the same order, and
-- is safe only if all of them are. So the two agree up to where the escaper is used, and a sequence
-- without leaves is safe. Only a sequence that stands for safe text itself is rendered without its
-- items, though they are what the tag inserts.
import Stencil.Proofs.Chains
import Stencil.Proofs.Escaping
import Stencil.Proofs.Failing

namespace Stencil

namespace Text

theorem join_flatten (l : List (List String)) :
    String.join l.flatten = String.join (l.map String.join) := by
  induction l with
  | nil => rfl
  | cons ss rest ih =>
    rw [List.flatten_cons, String.join_append, ih, List.map_cons, String.join_cons]

theorem escapeMarkup_append (s t : String) :
    escapeMarkup (s ++ t) = escapeMarkup s ++ escapeMarkup t := by
  rw [escapeMarkup, String.toList_append, List.flatMap_append, String.ofList_append]
  rfl

/-- Texts in a row are escaped one by one. -/
theorem escapeMarkup_join (l : List String) :
    escapeMarkup (String.join l) = String.join (l.map escapeMarkup) := by
  induction l with
  | nil => rfl
  | cons s rest ih =>
    rw [String.join_cons, escapeMarkup_append, ih, List.map_cons, String.join_cons]

end Text

/-! ## Leaves -/

namespace Value

mutual

/-- The values that are reached through nested sequences and are none themselves. -/
def leaves : Value → List Value
  | .list items => leavesOf items
  | .tuple items => leavesOf items
  | .collection _ items _ => leavesOf items
  | .stream _ _ items _ => leavesOf items
  | .range start stop step => rangeItems start stop step
  | v => [v]

def leavesOf : List Value → List Value
  | [] => []
  | v :: rest => v.leaves ++ leavesOf rest

end

/-- A value that hands out its items as often as it is asked: no stream is reached in it. -/
inductive Lasting : Value → Prop
  | leaf {v : Value} : v.items? = none → Lasting v
  | items {v : Value} {items : List Value} : v.items? = some (.fixed items) →
    (∀ u ∈ items, Lasting u) → Lasting v

/-- Every sequence that is reached in the value is rendered by its items: none of them stands for
safe text itself. -/
inductive Itemwise : Value → Prop
  | leaf {v : Value} : v.items? = none → Itemwise v
  | items {v : Value} {items : Items} : v.items? = some items → v.markup? = none →
    (∀ u ∈ items.values, Itemwise u) → Itemwise v

/-- The rendering of a value that is neither a sequence nor a renderable, if it can be written. -/
def atOnce : Value → Rendering
  | .missing | .null | .mapping _ => ⟨.plain "", false⟩
  | .text s => ⟨.plain s, false⟩
  | v =>
    match v.markup? with
    | some s => ⟨.plain s, true⟩
    | none => ⟨.plain v.shown, false⟩

theorem safe_atOnce (v : Value) : v.atOnce.safe = v.markup?.isSome := by
  unfold atOnce
  split <;> first | rfl | cases v.markup? <;> rfl

theorem atOnce_text (v : Value) : v.atOnce.text = .plain v.atOnce.text.text := by
  unfold atOnce
  split <;> first | rfl | cases v.markup? <;> rfl

/-- Nothing that is reached in the value is safe or renders itself. -/
def Raw (v : Value) : Prop :=
  v.Itemwise ∧ ∀ u ∈ v.leaves, u.isRenderable = false ∧ u.markup? = none

variable {v : Value} {items : Items}

theorem leavesOf_eq (l : List Value) : leavesOf l = l.flatMap leaves := by
  induction l with
  | nil => rfl
  | cons v rest ih => rw [leavesOf, ih, List.flatMap_cons]

theorem leaves_leaf (h : v.items? = none) : v.leaves = [v] := by
  cases v <;> cases h <;> simp only [leaves]

theorem leaves_of_items (h : v.items? = some items) : v.leaves = items.values.flatMap leaves := by
  cases v with
  | range start stop step =>
    cases h
    have whole : ∀ u ∈ rangeItems start stop step, u.leaves = [u] := by
      intro u hu
      obtain ⟨n, _, rfl⟩ := List.mem_map.1 hu
      exact leaves_leaf rfl
    rw [leaves, Items.values, List.flatMap_congr whole, List.flatMap_singleton']
  | list items | tuple items | collection _ items _ | stream _ _ items =>
    cases h
    rw [leaves, leavesOf_eq, Items.values]
  | _ => cases h

theorem Itemwise.joined (h : v.Itemwise) (hi : v.items? = some items) :
    v.joinedItems? = some items ∧ ∀ u ∈ items.values, u.Itemwise := by
  cases h with
  | leaf none => cases hi.symm.trans none
  | items some plain inner =>
    cases hi.symm.trans some
    simp only [joinedItems?, plain, Option.isSome_none]
    exact ⟨hi, inner⟩

theorem Lasting.item {u : Value} {l : List Value} (h : v.Lasting) (hi : v.items? = some (.fixed l))
    (hu : u ∈ l) : u.Lasting := by
  cases h with
  | leaf none => cases hi.symm.trans none
  | items some lasting =>
    cases hi.symm.trans some
    exact lasting u hu

theorem Lasting.fixed (h : v.Lasting) (hi : v.items? = some items) :
    items = .fixed items.values := by
  cases h with
  | leaf none => cases hi.symm.trans none
  | items some _ =>
    cases hi.symm.trans some
    rfl

end Value

/-- A leaf with what it is rendered to. -/
structure Leaf where
  value : Value
  rendering : Rendering

variable {σ : Type}

theorem Run.map_eq_done {α β : Type} {f : α → β} {r : Run σ α} {w w' : World σ} {b : β} :
    (f <$> r) w = (.done b, w') ↔ ∃ a, r w = (.done a, w') ∧ f a = b := by
  rw [map_eq_pure_bind, Run.bind_eq_done]
  constructor
  · rintro ⟨a, w₁, done, h⟩
    obtain ⟨rfl, rfl⟩ := Run.pure_eq_done.1 h
    exact ⟨a, done, rfl⟩
  · rintro ⟨a, done, rfl⟩
    exact ⟨a, w', done, rfl⟩

/-- What holds anyway holds of whatever a run gives. -/
theorem Run.gives_const {α : Type} {p : Prop} (h : p) (r : Run σ α) : Run.Gives (fun _ => p) r := by
  intro w
  split <;> trivial

theorem Run.drain_congr {β : Type} {f g : Value → Run σ β} {id : Nat} {items : List Value}
    {ending : Option Failure} (h : ∀ u ∈ items, f u = g u) (bound : Nat) :
    Run.drain f id items ending bound = Run.drain g id items ending bound := by
  induction bound with
  | zero => rfl
  | succ bound ih =>
    funext w
    have given := w.outside.from_pull id items ending
    rw [drain_apply, drain_apply]
    rcases pull : w.outside.pull id items ending with ⟨next, o⟩
    rw [pull] at given
    cases given with
    | item mem => simp only [h _ mem, ih]
    | raised => rfl
    | ended => rfl

theorem Run.eachItem_congr {β : Type} {f g : Value → Run σ β} {items : Items}
    (h : ∀ u ∈ items.values, f u = g u) : Run.eachItem f items = Run.eachItem g items := by
  cases items with
  | fixed items => exact Run.each_congr h
  | stream id items ending => exact Run.drain_congr h _

/-- What each run of a list gives, compared with the element that it is for. -/
theorem Run.gives_each_map {α β γ : Type} {f : α → Run σ β} {k : β → γ} {m : α → γ} {l : List α}
    (h : ∀ a ∈ l, Run.Gives (fun b => k b = m a) (f a)) :
    Run.Gives (fun bs => bs.map k = l.map m) (Run.each f l) := by
  induction l with
  | nil => exact ends_pure rfl
  | cons a rest ih =>
    have others := ih fun b hb => h b (List.mem_cons_of_mem _ hb)
    refine (h a List.mem_cons_self).bind fun b hb => others.bind fun bs hbs => ends_pure ?_
    rw [List.map_cons, List.map_cons, hb, hbs]

namespace Engine

variable (e : Engine σ)

/-- The leaves of a value, each rendered by itself, one after the other. -/
def renderLeaves : Nat → Tag → Value → Context → Run σ (List Leaf)
  | 0, _, _, _ => Run.exhaust
  | depth + 1, tag, v, c =>
    match v.items? with
    | some items => do
      let parts ← items |> Run.eachItem fun item => renderLeaves depth tag item c
      return parts.flatten
    | none => do return [⟨v, ← e.renderValue (depth + 1) tag v c⟩]

/-- What a tag writes for renderings one after the other: each of them is escaped by itself. -/
def written (tag : Tag) (rs : List Rendering) : String :=
  String.join (rs.map fun r => (e.insert tag r).text)

variable {e} {depth : Nat} {tag : Tag} {v : Value} {c : Context} {w w' : World σ} {r : Rendering}
  {leaves : List Leaf}

theorem joined_single (rs : List Rendering) : joined [joined rs] = joined rs := by
  simp [joined]

theorem joined_map_single (rs : List Rendering) :
    joined (rs.map fun r => joined [r]) = joined rs := by
  simp [joined, Function.comp_def]

theorem joined_cons_joined (r : Rendering) (rs : List Rendering) :
    joined [r, joined rs] = joined (r :: rs) := by
  simp [joined]

theorem joined_append (rs ss : List Rendering) :
    joined (rs ++ ss) = joined [joined rs, joined ss] := by
  simp [joined]

theorem joined_flatten (l : List (List Rendering)) : joined l.flatten = joined (l.map joined) := by
  induction l with
  | nil => rfl
  | cons rs rest ih => rw [List.flatten_cons, joined_append, ih, joined_cons_joined, List.map_cons]

/-- Rendering a value is rendering its leaves, but for a mark on the text of a single leaf. -/
theorem map_renderValue_eq_leaves (depth : Nat) (tag : Tag) (itemwise : v.Itemwise) (c : Context) :
    (fun r => joined [r]) <$> e.renderValue depth tag v c =
      (fun leaves => joined (leaves.map Leaf.rendering)) <$> e.renderLeaves depth tag v c := by
  induction depth generalizing v with
  | zero => rfl
  | succ depth ih =>
    rcases hi : v.items? with _ | items
    · simp only [renderLeaves, hi, bind_pure_comp, Functor.map_map, List.map_cons, List.map_nil]
    · obtain ⟨joins, inner⟩ := itemwise.joined hi
      simp only [renderLeaves, hi, e.renderValue_of_items joins, bind_pure_comp, Functor.map_map,
        List.map_flatten, joined_flatten, joined_single]
      calc joined <$> Run.eachItem (fun u => e.renderValue depth tag u c) items
        _ = joined <$> List.map (fun r => joined [r]) <$>
              Run.eachItem (fun u => e.renderValue depth tag u c) items := by
          simp only [Functor.map_map, joined_map_single]
        _ = joined <$> List.map (fun leaves => joined (leaves.map Leaf.rendering)) <$>
              Run.eachItem (fun u => e.renderLeaves depth tag u c) items := by
          rw [Run.map_eachItem, Run.map_eachItem, Run.eachItem_congr fun u hu => ih (inner u hu)]
        _ = _ := by simp only [Functor.map_map, List.map_map, Function.comp_def]

theorem written_flatten (l : List (List Rendering)) :
    e.written tag l.flatten = String.join (l.map (e.written tag)) := by
  rw [written, List.map_flatten, Text.join_flatten, List.map_map]
  rfl

/-- A variable tag inserts the leaves of a value one after the other. -/
theorem follows_renderLeaves (depth : Nat) (tag : Tag) (v : Value) (c : Context) :
    Run.Follows (fun _ => True)
      ((fun leaves => e.written tag (leaves.map Leaf.rendering)) <$> e.renderLeaves depth tag v c)
      (e.renderVariable (depth + 1) tag v c) := by
  induction depth generalizing v with
  | zero => exact Run.follows_exhaust _
  | succ depth ih =>
    rcases hi : v.items? with _ | items
    · simp only [renderLeaves, renderVariable, hi, bind_pure_comp, Functor.map_map, List.map_cons,
        List.map_nil, written, String.join_cons, String.join_nil, String.append_empty]
      exact .refl _
    · have parts := (Run.Follows.eachItem fun u (_ : u ∈ items.values) => ih u).map
        (f := String.join) (P := fun _ => True) fun _ _ _ _ => trivial
      simpa only [renderLeaves, renderVariable, hi, bind_pure_comp, Functor.map_map,
        ← Run.map_eachItem, List.map_flatten, written_flatten, List.map_map,
        Function.comp_def] using parts

/-- What holds of the rendering of every leaf of a value holds of the leaves that are rendered. -/
theorem gives_renderLeaves {P : Leaf → Prop} {v : Value} (depth : Nat)
    (h : ∀ u ∈ v.leaves, u.items? = none → ∀ depth,
      Run.Gives (fun r => P ⟨u, r⟩) (e.renderValue depth tag u c)) :
    Run.Gives (fun leaves => ∀ l ∈ leaves, P l) (e.renderLeaves depth tag v c) := by
  induction depth generalizing v with
  | zero => exact Run.ends_exhaust
  | succ depth ih =>
    rw [renderLeaves]
    rcases hi : v.items? with _ | items
    · have single := h v (Value.leaves_leaf hi ▸ List.mem_singleton_self v) hi (depth + 1)
      exact single.bind fun r hr => Run.ends_pure fun l hl => List.mem_singleton.1 hl ▸ hr
    · rw [Value.leaves_of_items hi] at h
      have inner : ∀ u ∈ items.values,
          Run.Gives (fun leaves => ∀ l ∈ leaves, P l) (e.renderLeaves depth tag u c) :=
        fun u hu => ih fun l hl => h l (List.mem_flatMap.2 ⟨u, hu, hl⟩)
      refine (Run.gives_eachItem inner).bind fun parts hparts => Run.ends_pure fun l hl => ?_
      obtain ⟨part, hpart, hl⟩ := List.mem_flatten.1 hl
      exact hparts part hpart l hl

/-- Where no stream is reached, each leaf is rendered once, in its order. -/
theorem gives_all_leaves (depth : Nat) (tag : Tag) (lasting : v.Lasting) (c : Context) :
    Run.Gives (fun leaves => leaves.map Leaf.value = v.leaves) (e.renderLeaves depth tag v c) := by
  induction depth generalizing v with
  | zero => exact Run.ends_exhaust
  | succ depth ih =>
    rw [renderLeaves]
    rcases hi : v.items? with _ | items
    · refine (Run.gives_any _).bind fun r _ => Run.ends_pure ?_
      rw [Value.leaves_leaf hi]
      rfl
    · obtain ⟨l, rfl⟩ : ∃ l, items = .fixed l := ⟨_, lasting.fixed hi⟩
      have each : Run.Gives (fun parts => parts.map (List.map Leaf.value) = l.map Value.leaves)
          (Run.each (fun u => e.renderLeaves depth tag u c) l) :=
        Run.gives_each_map fun u hu => ih (lasting.item hi hu)
      refine Run.Ends.bind each fun parts hparts => Run.ends_pure ?_
      rw [List.map_flatten, hparts, Value.leaves_of_items hi, Items.values, List.flatMap_def]

theorem leaf_eq (writes : v.written = if v.isWritable then .ok v.shown else .error .unwritable) :
    (leaf v : Run σ Rendering) =
      if v.isWritable then pure v.atOnce else Run.fail (.host .unwritable) := by
  cases v with
  | object traits attributes =>
    have text : traits.text = .ok (Value.object traits attributes).shown := writes
    show (do return ⟨.plain (← Run.ofExcept traits.text), false⟩ : Run σ Rendering) = _
    rw [text]
    rfl
  | int i =>
    show (do return ⟨.plain (← Run.ofExcept (Value.int i).written), false⟩ : Run σ Rendering) = _
    rw [writes]
    cases (Value.int i).isWritable <;> rfl
  | collection traits items attributes =>
    obtain ⟨label, indexed, truth, markup, raising⟩ := traits
    cases markup <;> rfl
  | _ => rfl

/-- What is rendered at once is safe if it stands for safe text. -/
theorem gives_safe_leaf (v : Value) :
    Run.Gives (fun r => r.safe = v.markup?.isSome) (leaf v : Run σ Rendering) := by
  unfold leaf
  split
  · exact Run.ends_pure rfl
  · exact Run.ends_pure rfl
  · exact Run.ends_pure rfl
  · exact Run.ends_pure rfl
  · cases v.markup? with
    | some s => exact Run.ends_pure rfl
    | none => exact (Run.gives_any _).bind_any fun s => Run.ends_pure rfl

/-! ## A value and its leaves in a tag -/

theorem text_insert (tag : Tag) (r : Rendering) : (e.insert tag r).text =
    if tag.escaped && !r.safe then (e.escape r.text).text else r.text.text := by
  unfold insert
  cases r.safe <;> cases tag.escaped <;> rfl

/-- A rendering of a value comes with renderings of its leaves. -/
theorem exists_leaves (itemwise : v.Itemwise)
    (rendered : e.renderValue depth tag v c w = (.done r, w')) :
    ∃ leaves : List Leaf, e.renderLeaves depth tag v c w = (.done leaves, w') ∧
      joined [r] = joined (leaves.map Leaf.rendering) := by
  have single : ((fun r => joined [r]) <$> e.renderValue depth tag v c) w =
      (.done (joined [r]), w') := Run.map_eq_done.2 ⟨r, rendered, rfl⟩
  rw [map_renderValue_eq_leaves _ _ itemwise] at single
  obtain ⟨leaves, done, whole⟩ := Run.map_eq_done.1 single
  exact ⟨leaves, done, whole.symm⟩

theorem safe_iff_of_joined (h : joined [r] = joined (leaves.map Leaf.rendering)) :
    r.safe = true ↔ ∀ l ∈ leaves, l.rendering.safe = true := by
  have safe := congrArg Rendering.safe h
  simp only [joined, List.all_cons, List.all_nil, Bool.and_true] at safe
  simp [safe]

theorem text_of_joined (h : joined [r] = joined (leaves.map Leaf.rendering)) :
    r.text.text = String.join (leaves.map (·.rendering.text.text)) := by
  have text := congrArg (·.text.text) h
  simpa [joined, Function.comp_def] using text

/-- The text of a sequence bears no mark. -/
theorem text_of_sequence (itemwise : v.Itemwise) (sequence : v.isSequence = true)
    (rendered : e.renderValue depth tag v c w = (.done r, w')) : r.text = .plain r.text.text := by
  rw [← v.isSome_items?, Option.isSome_iff_exists] at sequence
  obtain ⟨items, hi⟩ := sequence
  cases depth with
  | zero => cases rendered
  | succ depth =>
    rw [renderValue_of_items e (itemwise.joined hi).1] at rendered
    obtain ⟨rs, _, _, h⟩ := Run.bind_eq_done.1 rendered
    obtain ⟨rfl, _⟩ := Run.pure_eq_done.1 h
    rfl

/-- A value that is no sequence is its only leaf. -/
theorem leaves_of_single (single : v.isSequence = false)
    (rendered : e.renderValue depth tag v c w = (.done r, w'))
    (done : e.renderLeaves depth tag v c w = (.done leaves, w')) : leaves = [⟨v, r⟩] := by
  rw [← v.isSome_items?, Option.isSome_eq_false_iff, Option.isNone_iff_eq_none] at single
  cases depth with
  | zero => cases rendered
  | succ depth =>
    rw [renderLeaves, single] at done
    obtain ⟨r', _, again, h⟩ := Run.bind_eq_done.1 done
    obtain ⟨rfl, _⟩ := Run.pure_eq_done.1 h
    cases rendered.symm.trans again
    rfl

/-- Where nothing has to be escaped, the leaves make up the whole text. -/
theorem written_of_plain (whole : joined [r] = joined (leaves.map Leaf.rendering))
    (plain : tag.escaped = false ∨ e.escape = ContentType.text.escape ∨ r.safe = true) :
    e.written tag (leaves.map Leaf.rendering) = r.text.text := by
  have unchanged : ∀ l ∈ leaves, (e.insert tag l.rendering).text = l.rendering.text.text := by
    intro l hl
    rw [text_insert]
    rcases plain with bare | text | clean
    · simp [bare]
    · simp [text, ContentType.escape]
    · simp [(safe_iff_of_joined whole).1 clean l hl]
  rw [text_of_joined whole, written, List.map_map]
  exact congrArg String.join (List.map_congr_left unchanged)

/-- Where every leaf has to be escaped and none is marked, the leaves make up the whole text,
escaped at once. -/
theorem written_of_raw (html : e.escape = ContentType.html.escape) (escapes : tag.escaped = true)
    (raw : ∀ l ∈ leaves, l.rendering.safe = false)
    (unmarked : ∀ l ∈ leaves, l.rendering.text.marked = false) :
    e.written tag (leaves.map Leaf.rendering) =
      Text.escapeMarkup (String.join (leaves.map (·.rendering.text.text))) := by
  have escaped : ∀ l ∈ leaves,
      (e.insert tag l.rendering).text = Text.escapeMarkup l.rendering.text.text := by
    intro l hl
    rw [text_insert, html, escapes, raw l hl]
    simp [ContentType.escape, Passage.escaped, unmarked l hl]
  rw [Text.escapeMarkup_join, written, List.map_map, List.map_map]
  exact congrArg String.join (List.map_congr_left escaped)

/-- How a variable tag inserts a value that renders to `r`, where no sequence in the value stands
for safe text itself: its leaves one after the other, each in
its order and escaped by itself if its rendering is unsafe. Their texts make up the text of `r`,
and `r` is safe if they all are. So the tag inserts that text if it does not escape, if there is
nothing to escape in the content, or if `r` is safe; and in a page it inserts that text escaped if
no leaf is safe. Only in a sequence, where a leaf may be text that is marked and yet unsafe, the
two differ: the leaf stays as it stands, and the mark is not on the whole. -/
theorem inserts_leaves (e : Engine σ) (itemwise : v.Itemwise)
    (rendered : e.renderValue depth tag v c w = (.done r, w')) :
    ∃ (leaves : List Leaf) (t : String),
      e.renderLeaves depth tag v c w = (.done leaves, w') ∧
      (∀ l ∈ leaves, l.value ∈ v.leaves) ∧
      (v.Lasting → leaves.map Leaf.value = v.leaves) ∧
      r.text.text = String.join (leaves.map (·.rendering.text.text)) ∧
      (r.safe = true ↔ ∀ l ∈ leaves, l.rendering.safe = true) ∧
      e.renderVariable (depth + 1) tag v c w = (.done t, w') ∧
      t = String.join (leaves.map fun l =>
        if tag.escaped && !l.rendering.safe then (e.escape l.rendering.text).text
          else l.rendering.text.text) ∧
      (tag.escaped = false ∨ e.escape = ContentType.text.escape ∨ r.safe = true → t = r.text.text) ∧
      (e.escape = ContentType.html.escape → tag.escaped = true →
        (∀ l ∈ leaves, l.rendering.safe = false) →
        (v.isSequence = true → ∀ l ∈ leaves, l.rendering.text.marked = false) →
        t = (e.escape r.text).text) := by
  obtain ⟨leaves, done, whole⟩ := exists_leaves itemwise rendered
  have members : Run.Gives (fun leaves => ∀ l ∈ leaves, l.value ∈ v.leaves)
      (e.renderLeaves depth tag v c) :=
    gives_renderLeaves depth fun u hu _ _ => Run.gives_const hu _
  have inserted : e.renderVariable (depth + 1) tag v c w =
      (.done (e.written tag (leaves.map Leaf.rendering)), w') :=
    follows_renderLeaves depth tag v c w _ w' (Run.map_eq_done.2 ⟨leaves, done, rfl⟩) trivial
  refine ⟨leaves, _, done, members.done done, fun lasting => ?_, text_of_joined whole,
    safe_iff_of_joined whole, inserted, ?_, written_of_plain whole, ?_⟩
  · exact (gives_all_leaves depth tag lasting c).done done
  · simp only [written, List.map_map, Function.comp_def, text_insert]
  · intro html escapes raw unmarked
    rcases sequence : v.isSequence with _ | _
    · obtain rfl := leaves_of_single sequence rendered done
      have one : r.safe = false := raw _ List.mem_cons_self
      simp [written, text_insert, escapes, one]
    · rw [written_of_raw html escapes raw (unmarked sequence),
        text_of_sequence itemwise sequence rendered, html, text_of_joined whole]
      rfl

/-- An engine for pages with a renderable that answers with marked text and says that it is
unsafe. -/
def pageEngine : Engine Unit where
  host.call name _ _ o := (.error (.host (.raised "NameError" name)), o)
  host.script _ _ _ _ := .done (.value (.tuple [.markup "<b>", .bool false]))
  policy := .empty
  escape := ContentType.html.escape

def pageTag : Tag := ⟨0, ⟨.name "x", ⟨1, 1, none⟩⟩, .variableTag true⟩

/-- Two values in nested lists, and a list without items beside them. -/
def nested (u v : Value) : Value := .list [u, .list [v, .list []]]

theorem lasting_nested {u v : Value} (hu : u.items? = none) (hv : v.items? = none) :
    (nested u v).Lasting := by
  refine .items rfl fun a ha => ?_
  rcases List.mem_pair.1 ha with rfl | rfl
  · exact .leaf hu
  · refine .items rfl fun b hb => ?_
    rcases List.mem_pair.1 hb with rfl | rfl
    · exact .leaf hv
    · exact .items rfl (List.forall_mem_nil _)

theorem itemwise_nested {u v : Value} (hu : u.items? = none) (hv : v.items? = none) :
    (nested u v).Itemwise := by
  refine .items rfl rfl fun a ha => ?_
  rcases List.mem_pair.1 ha with rfl | rfl
  · exact .leaf hu
  · refine .items rfl rfl fun b hb => ?_
    rcases List.mem_pair.1 hb with rfl | rfl
    · exact .leaf hv
    · exact .items rfl rfl (List.forall_mem_nil _)

theorem leaves_nested {u v : Value} (hu : u.items? = none) (hv : v.items? = none) :
    (nested u v).leaves = [u, v] := by
  simp [nested, Value.leaves, Value.leavesOf, Value.leaves_leaf hu, Value.leaves_leaf hv]

def mixedList : Value := nested (.text "<i>") (.markup "<b>")

theorem inserts_leaves_mixed :
    mixedList.Itemwise ∧
      pageEngine.renderValue 3 pageTag mixedList .empty (World.start ()) =
        (.done ⟨.plain "<i><b>", false⟩, World.start ()) ∧
      pageEngine.renderVariable 4 pageTag mixedList .empty (World.start ()) =
        (.done "&lt;i&gt;<b>", World.start ()) ∧
      ∃ leaves : List Leaf, leaves.map Leaf.value = [.text "<i>", .markup "<b>"] ∧
        "<i><b>" = String.join (leaves.map (·.rendering.text.text)) ∧
        "&lt;i&gt;<b>" = String.join (leaves.map fun l =>
          if pageTag.escaped && !l.rendering.safe then (pageEngine.escape l.rendering.text).text
            else l.rendering.text.text) := by
  have rendered : pageEngine.renderValue 3 pageTag mixedList .empty (World.start ()) =
      (.done ⟨.plain "<i><b>", false⟩, World.start ()) := rfl
  have tag : pageEngine.renderVariable 4 pageTag mixedList .empty (World.start ()) =
      (.done "&lt;i&gt;<b>", World.start ()) := rfl
  have itemwise : mixedList.Itemwise := itemwise_nested rfl rfl
  obtain ⟨leaves, t, _, _, all, text, _, inserted, parts, _⟩ :=
    inserts_leaves pageEngine itemwise rendered
  cases tag.symm.trans inserted
  have values := (all (lasting_nested rfl rfl)).trans (leaves_nested rfl rfl)
  exact ⟨itemwise, rendered, tag, leaves, values, text, parts⟩

/-- A list that stands for safe text itself. -/
def badge : Value := .collection ⟨"Badge", true, none, some "<b>", []⟩ [.text "a", .text "<"] []

/-- A leaf that is marked and unsafe stays as it stands, and a text like the whole one would be
escaped; and a sequence that stands for safe text itself is rendered to that text, but its items
are inserted. -/
theorem marked_leaf_stays :
    (pageEngine.renderValue 2 pageTag (.list [.custom "Bold" "bold" []]) .empty
        (World.start ())).1 = .done ⟨.plain "<b>", false⟩ ∧
      (pageEngine.renderLeaves 2 pageTag (.list [.custom "Bold" "bold" []]) .empty
        (World.start ())).1 = .done [⟨.custom "Bold" "bold" [], ⟨⟨"<b>", true⟩, false⟩⟩] ∧
      (pageEngine.renderVariable 3 pageTag (.list [.custom "Bold" "bold" []]) .empty
        (World.start ())).1 = .done "<b>" ∧
      (pageEngine.escape (.plain "<b>")).text = "&lt;b&gt;" ∧
      (pageEngine.renderValue 2 pageTag badge .empty (World.start ())).1 =
        .done ⟨.plain "<b>", true⟩ ∧
      (pageEngine.renderVariable 3 pageTag badge .empty (World.start ())).1 = .done "a&lt;" := by
  refine ⟨?_, ?_, ?_, ?_, ?_, ?_⟩ <;> rfl

/-! ## Textual filters of raw values -/

theorem gives_raw_leaf (items : v.items? = none) (plain : v.isRenderable = false)
    (raw : v.markup? = none) (depth : Nat) :
    Run.Gives (fun r => r.safe = false) (e.renderValue depth tag v c) := by
  cases depth with
  | zero => exact Run.ends_exhaust
  | succ depth =>
    have joins : v.joinedItems? = none := by rw [Value.joinedItems?, raw, items]; rfl
    rw [renderValue_leaf e joins plain]
    have safe := gives_safe_leaf (σ := σ) v
    rwa [raw] at safe

/-- A filter that waits for texts is safe if its arguments are safe together. -/
theorem renderValue_pending {body : Body TextFunction} {captured arguments : List Value}
    {rs : List Rendering} {s : String} {w₁ w₂ : World σ} (plain : tag.isSection = false)
    (rendered : Run.each (e.renderValue depth tag · c) arguments w = (.done rs, w₁))
    (answered : body.callTexts e.host captured (rs.map (·.text)) w₁ = (.done (.text s), w₂)) :
    e.renderValue (depth + 1) tag (.pending body captured arguments) c w =
      (.done ⟨.plain s, (joined rs).safe⟩, w₂) := by
  have texts : Run.each ((e.handlersAt depth tag).value · c) arguments w = (.done rs, w₁) := by
    rw [← rendered]
    simp [handlersAt, handlers, valueFor, plain]
  rw [renderValue]
  exact Run.onFailure_eq_done.2 (Run.bind_eq_done.2 ⟨rs, w₁, texts,
    Run.bind_eq_done.2 ⟨.text s, w₂, answered, rfl⟩⟩)

/-- A variable tag for a textual filter of raw values. The text that the function answers with is
escaped, once and as a whole, if rendering the arguments reaches a leaf, however deep in them; if
it reaches none, the text is inserted as it stands. Arguments without streams are searched
whole. -/
theorem raw_filter_escaped (e : Engine σ) {x : Expr} {l : Location} {body : Body TextFunction}
    {captured arguments : List Value} {rs : List Rendering} {s : String} {w₁ w₂ w₃ : World σ}
    (resolved : e.resolve (w.newTag ⟨x, l⟩ (.variableTag true)) c w.opened =
      (.done (.pending body captured arguments), w₁))
    (raw : ∀ a ∈ arguments, a.Raw)
    (rendered : Run.each (e.renderValue depth (w.newTag ⟨x, l⟩ (.variableTag true)) · c) arguments
      (w₁.readied (w.newTag ⟨x, l⟩ (.variableTag true))) = (.done rs, w₂))
    (answered : body.callTexts e.host captured (rs.map (·.text)) w₂ = (.done (.text s), w₃)) :
    ∃ leaves : List Leaf,
      e.renderLeaves (depth + 1) (w.newTag ⟨x, l⟩ (.variableTag true)) (.list arguments) c
        (w₁.readied (w.newTag ⟨x, l⟩ (.variableTag true))) = (.done leaves, w₂) ∧
      ((∀ a ∈ arguments, a.Lasting) → leaves.map Leaf.value = arguments.flatMap Value.leaves) ∧
      e.renderNode (depth + 2) c (.variableTag ⟨x, l⟩ true) w =
        (.done (if leaves.isEmpty then s else (e.escape (.plain s)).text),
          w₃.moved (w.newTag ⟨x, l⟩ (.variableTag true)) .rendered) := by
  have whole : e.renderValue (depth + 1) (w.newTag ⟨x, l⟩ (.variableTag true)) (.list arguments) c
      (w₁.readied (w.newTag ⟨x, l⟩ (.variableTag true))) = (.done (joined rs), w₂) := by
    rw [renderValue_of_items e rfl]
    exact Run.bind_eq_done.2 ⟨rs, w₂, rendered, rfl⟩
  have itemwise : (Value.list arguments).Itemwise := .items rfl rfl fun a ha => (raw a ha).1
  obtain ⟨leaves, done, parts⟩ := exists_leaves itemwise whole
  have below : (Value.list arguments).leaves = arguments.flatMap Value.leaves := by
    rw [Value.leaves, Value.leavesOf_eq]
  have allRaw : ∀ l ∈ leaves, l.rendering.safe = false := by
    refine (gives_renderLeaves (depth + 1) fun u hu items below' => ?_).done done
    obtain ⟨a, ha, hu⟩ := List.mem_flatMap.1 (below ▸ hu)
    exact gives_raw_leaf items ((raw a ha).2 u hu).1 ((raw a ha).2 u hu).2 below'
  have safe : (joined rs).safe = leaves.isEmpty := by
    rw [Bool.eq_iff_iff, safe_iff_of_joined parts, List.isEmpty_iff]
    constructor
    · intro clean
      refine List.eq_nil_iff_forall_not_mem.2 fun l hl => ?_
      cases (clean l hl).symm.trans (allRaw l hl)
    · rintro rfl
      exact nofun
  refine ⟨leaves, done, fun lasting => ?_, ?_⟩
  · have all : (Value.list arguments).Lasting := .items rfl lasting
    exact ((gives_all_leaves _ _ all c).done done).trans below
  · refine visit_eq_done.2 ⟨_, _, _, resolved, ?_, rfl⟩
    have text := renderValue_pending rfl rendered answered
    show e.renderVariable _ _ _ c _ = _
    rw [renderVariable]
    refine Run.bind_eq_done.2 ⟨_, _, text, ?_⟩
    rw [Run.pure_apply, text_insert_variable rfl, safe]
    simp

/-- An engine with a function that shouts, and an escaper that writes brackets around a text. -/
def bracketingEngine : Engine Unit where
  host.call := fun name _ arguments o =>
    match arguments with
    | [.text s] => (.ok (.text (s ++ "!")), o)
    | _ => (.error (.host (.raised "TypeError" name)), o)
  host.script := fun _ _ _ _ => .done (.rendering ⟨.plain "", true⟩)
  policy := .empty
  escape := fun p => .plain ("[" ++ p.text ++ "]")

def shoutingContext (xs : Value) : Context :=
  ⟨[⟨.mapping [(.text "xs", xs)], [("shout", .filter (.textual (.host "shout")) [])]⟩]⟩

def shoutingNode : Node := .variableTag ⟨.call (.name "shout") (.name "xs") [], ⟨1, 1, none⟩⟩ true

def rawList : Value := nested (.int 1) (.text "a")

theorem raw_filter_escaped_shouting :
    rawList.Raw ∧ ∃ w', bracketingEngine.renderNode 5 (shoutingContext rawList) shoutingNode
      (World.start ()) = (.done "[1a!]", w') := by
  let w : World Unit := World.start ()
  let tag := w.newTag ⟨.call (.name "shout") (.name "xs") [], ⟨1, 1, none⟩⟩ (.variableTag true)
  have leaves : rawList.leaves = [.int 1, .text "a"] := leaves_nested rfl rfl
  have raw : rawList.Raw := by
    refine ⟨itemwise_nested rfl rfl, fun u hu => ?_⟩
    rw [leaves] at hu
    rcases List.mem_pair.1 hu with rfl | rfl <;> exact ⟨rfl, rfl⟩
  have lasting : rawList.Lasting := lasting_nested rfl rfl
  have resolved : bracketingEngine.resolve tag (shoutingContext rawList) w.opened =
      (.done (.pending (.host "shout") [] [rawList]), w.opened) := rfl
  have rendered : Run.each (bracketingEngine.renderValue 3 tag · (shoutingContext rawList))
      [rawList] (w.opened.readied tag) = (.done [⟨.plain "1a", false⟩], w.opened.readied tag) :=
    rfl
  have answered : (Body.host "shout").callTexts bracketingEngine.host [] [.plain "1a"]
      (w.opened.readied tag) = (.done (.text "1a!"), w.opened.readied tag) := rfl
  obtain ⟨reached, _, all, text⟩ := raw_filter_escaped bracketingEngine resolved
    (fun a ha => List.mem_singleton.1 ha ▸ raw) rendered answered
  have values := all fun a ha => List.mem_singleton.1 ha ▸ lasting
  cases reached with
  | nil => simp [leaves] at values
  | cons first rest => exact ⟨raw, _, text⟩

/-- A sequence without leaves is safe, so what a textual filter makes of it is inserted as it
stands. -/
theorem empty_argument_unescaped :
    (Value.list []).Raw ∧
      (bracketingEngine.renderNode 5 (shoutingContext (.list [])) shoutingNode
        (World.start ())).1 = .done "!" ∧
      (bracketingEngine.escape (.plain "!")).text = "[!]" := by
  refine ⟨⟨.items rfl rfl (List.forall_mem_nil _), List.forall_mem_nil _⟩, ?_, ?_⟩ <;> rfl

end Engine

end Stencil
