-- Items that know their positions, in variable tags of a page. A tag for a sequence escapes leaf by
-- leaf; a tag for its items with their positions escapes item by item. Escaping never makes a text
-- shorter, so the two texts are the same only if they are so leaf by leaf.
import Stencil.Proofs.Positions

namespace Stencil

variable {σ : Type}

/-! ## Inert values -/

namespace Value

mutual

/-- How deeply sequences are nested in a value. -/
def height : Value → Nat
  | .list items => heightOf items + 1
  | .tuple items => heightOf items + 1
  | .collection _ items _ => heightOf items + 1
  | .stream _ _ items _ => heightOf items + 1
  | .range _ _ _ => 1
  | _ => 0

def heightOf : List Value → Nat
  | [] => 0
  | v :: rest => max v.height (heightOf rest)

end

theorem height_le_heightOf {u : Value} {l : List Value} (hu : u ∈ l) : u.height ≤ heightOf l := by
  induction l with
  | nil => cases hu
  | cons v rest ih =>
    rw [heightOf]
    rcases List.mem_cons.1 hu with rfl | hu
    · exact le_max_left _ _
    · exact (ih hu).trans (le_max_right _ _)

theorem height_item {u v : Value} {items : Items} (h : v.items? = some items)
    (hu : u ∈ items.values) : u.height < v.height := by
  cases v with
  | range start stop step =>
    cases h
    obtain ⟨n, _, rfl⟩ := List.mem_map.1 hu
    simp only [height, Nat.zero_lt_one]
  | list items | tuple items | collection _ items _ | stream _ _ items _ =>
    cases h
    rw [height]
    exact Nat.lt_succ_of_le (height_le_heightOf hu)
  | _ => cases h

/-- The text of a value where what is unsafe is escaped leaf by leaf. -/
def shownByLeaf (escaped : Bool) (v : Value) : String :=
  String.join (v.leaves.map fun u =>
    if escaped && !u.atOnce.safe then Text.escapeMarkup u.atOnce.text.text else u.atOnce.text.text)

/-- The text of a value where it is escaped as a whole if one of its leaves is unsafe. -/
def shownWhole (escaped : Bool) (v : Value) : String :=
  if escaped && !v.leaves.all (·.atOnce.safe) then
    Text.escapeMarkup (String.join (v.leaves.map (·.atOnce.text.text)))
  else String.join (v.leaves.map (·.atOnce.text.text))

theorem shownByLeaf_of_items {v : Value} {items : Items} (h : v.items? = some items)
    (escaped : Bool) :
    v.shownByLeaf escaped = String.join (items.values.map (shownByLeaf escaped)) := by
  rw [shownByLeaf, leaves_of_items h, List.map_flatMap, List.flatMap_def, Text.join_flatten,
    List.map_map]
  rfl

/-- Nothing that is reached in the value renders itself, or raises an error of its own when it is
written. No stream is reached, and no sequence that stands for safe text. -/
structure Inert (v : Value) : Prop where
  lasting : v.Lasting
  itemwise : v.Itemwise
  plain : ∀ u ∈ v.leaves, u.isRenderable = false
  writes : ∀ u ∈ v.leaves, u.written = if u.isWritable then .ok u.shown else .error .unwritable

theorem Inert.item {u v : Value} {l : List Value} (h : v.Inert) (hi : v.items? = some (.fixed l))
    (hu : u ∈ l) : u.Inert := by
  have inside : ∀ a ∈ u.leaves, a ∈ v.leaves :=
    fun a ha => leaves_of_items hi ▸ List.mem_flatMap.2 ⟨u, hu, ha⟩
  exact ⟨h.lasting.item hi hu, (h.itemwise.joined hi).2 u hu,
    fun a ha => h.plain a (inside a ha), fun a ha => h.writes a (inside a ha)⟩

end Value

/-- Runs that are known beforehand, up to the first one that fails. -/
theorem Run.each_ite {α β : Type} {p : α → Bool} {f : α → β} {g : α → Run σ β} {failure : Failure}
    {l : List α} (h : ∀ a ∈ l, g a = if p a then pure (f a) else Run.fail failure) :
    Run.each g l = if l.all p then pure (l.map f) else Run.fail failure := by
  induction l with
  | nil => rfl
  | cons a rest ih =>
    rw [Run.each, h a List.mem_cons_self, ih fun b hb => h b (List.mem_cons_of_mem _ hb),
      List.all_cons, List.map_cons]
    cases p a
    · rfl
    · cases rest.all p <;> rfl

theorem Run.map_ite {α β : Type} (f : α → β) (p : Bool) (a : α) (failure : Failure) :
    (f <$> if p then pure a else Run.fail failure : Run σ β) =
      if p then pure (f a) else Run.fail failure := by
  cases p <;> rfl

namespace Engine

variable {e : Engine σ} {c : Context} {x : Expr} {l : Location} {w w₁ : World σ} {v xs : Value}
  {items : List Value} {tag : Tag} {depth : Nat} {escaped : Bool}

theorem joined_atOnce (v : Value) : joined [v.atOnce] = v.atOnce := by
  simp [joined, ← v.atOnce_text]

/-- The rendering of an inert value. -/
theorem renderValue_inert (inert : v.Inert) (deep : v.height < depth) :
    e.renderValue depth tag v c =
      if v.leaves.all (·.isWritable) then pure (joined (v.leaves.map Value.atOnce))
      else Run.fail (.host .unwritable) := by
  induction depth generalizing v with
  | zero => exact absurd deep (Nat.not_lt_zero _)
  | succ depth ih =>
    rcases hi : v.items? with _ | items
    · have single : v ∈ v.leaves := Value.leaves_leaf hi ▸ List.mem_singleton_self v
      have parts : v.joinedItems? = none := by simp [Value.joinedItems?, hi]
      rw [renderValue_leaf e parts (inert.plain v single), leaf_eq (inert.writes v single),
        Value.leaves_leaf hi]
      simp [joined_atOnce]
    · obtain ⟨l, rfl⟩ : ∃ l, items = .fixed l := ⟨_, inert.lasting.fixed hi⟩
      have parts := Run.each_ite fun u (hu : u ∈ l) =>
        ih (inert.item hi hu) (by have := Value.height_item hi hu; omega)
      rw [renderValue_of_items e (inert.itemwise.joined hi).1, Value.leaves_of_items hi,
        Items.values, List.all_flatMap, List.map_flatMap, List.flatMap_def, joined_flatten,
        List.map_map]
      simp only [Run.eachItem, parts, bind_pure_comp, Run.map_ite]
      rfl

theorem text_insert_html (html : e.escape = ContentType.html.escape)
    (form : tag.form = .variableTag escaped) {r : Rendering} (plain : r.text.marked = false) :
    (e.insert tag r).text =
      if escaped && !r.safe then Text.escapeMarkup r.text.text else r.text.text := by
  have shown : (e.escape r.text).text = Text.escapeMarkup r.text.text := by
    rw [html]
    simp [ContentType.escape, Passage.escaped, plain]
  rw [text_insert, shown]
  simp only [Tag.escaped, form]

/-- What a variable tag inserts for an inert value. -/
theorem renderVariable_inert (html : e.escape = ContentType.html.escape)
    (form : tag.form = .variableTag escaped) (inert : v.Inert) (deep : v.height + 1 < depth) :
    e.renderVariable depth tag v c =
      if v.leaves.all (·.isWritable) then pure (v.shownByLeaf escaped)
      else Run.fail (.host .unwritable) := by
  induction depth generalizing v with
  | zero => exact absurd deep (Nat.not_lt_zero _)
  | succ depth ih =>
    rcases hi : v.items? with _ | items
    · have unmarked : v.atOnce.text.marked = false := congrArg Passage.marked v.atOnce_text
      rw [renderVariable, hi]
      simp only [renderValue_inert inert (Nat.lt_of_succ_lt_succ deep), bind_pure_comp, Run.map_ite,
        Value.shownByLeaf, Value.leaves_leaf hi, List.map_cons, List.map_nil, joined_atOnce,
        text_insert_html html form unmarked, String.join_cons, String.join_nil,
        String.append_empty]
    · obtain ⟨l, rfl⟩ : ∃ l, items = .fixed l := ⟨_, inert.lasting.fixed hi⟩
      have parts := Run.each_ite fun u (hu : u ∈ l) =>
        ih (inert.item hi hu) (by have := Value.height_item hi hu; omega)
      rw [renderVariable, hi, Value.leaves_of_items hi, List.all_flatMap,
        Value.shownByLeaf_of_items hi]
      simp only [Run.eachItem, parts, bind_pure_comp, Run.map_ite]
      rfl

/-- What a variable tag inserts for an inert value with its position. -/
theorem renderVariable_eachItem (html : e.escape = ContentType.html.escape)
    (form : tag.form = .variableTag escaped) (inert : v.Inert) (deep : v.height + 2 < depth)
    (index : Nat) (last : Bool) :
    e.renderVariable depth tag (.eachItem v index last .null) c =
      if v.leaves.all (·.isWritable) then pure (v.shownWhole escaped)
      else Run.fail (.fault ⟨eachItemFailed .unwritable, none⟩) := by
  obtain ⟨depth, rfl⟩ : ∃ below, depth = below + 2 := ⟨depth - 2, by omega⟩
  have around : e.renderValue (depth + 1) tag (.eachItem v index last .null) c =
      (e.renderValue depth tag v c).wrap eachItemFailed := by
    simp only [renderValue, Tag.isSection, form]
    rfl
  have text := text_insert_html html form (r := joined (v.leaves.map Value.atOnce)) rfl
  rw [renderVariable]
  simp only [Value.items?, around, renderValue_inert inert (Nat.lt_of_add_lt_add_right deep)]
  cases v.leaves.all (·.isWritable)
  · rfl
  · refine congrArg (fun s => (pure s : Run σ String)) (text.trans ?_)
    simp [Value.shownWhole, joined, Function.comp_def, List.all_map]

end Engine

/-! ## Leaf by leaf, and as a whole -/

namespace Text

theorem flatMap_markupChar_eq_or_lt (cs : List Char) :
    cs.flatMap markupChar = cs ∨ cs.length < (cs.flatMap markupChar).length := by
  induction cs with
  | nil => exact .inl rfl
  | cons c rest ih =>
    have char : markupChar c = [c] ∨ 1 < (markupChar c).length := by
      unfold markupChar
      split <;> first | exact .inl rfl | exact .inr (by decide)
    rw [List.flatMap_cons, List.length_append, List.length_cons]
    rcases char with same | longer
    · rw [same]
      rcases ih with ih | ih
      · exact .inl (by rw [ih]; rfl)
      · exact .inr (by rw [List.length_singleton]; omega)
    · have rest : rest.length ≤ (rest.flatMap markupChar).length := by
        rcases ih with ih | ih
        · exact (congrArg List.length ih).ge
        · exact ih.le
      exact .inr (by omega)

/-- Escaping leaves a text as it is or makes it longer. -/
theorem escapeMarkup_eq_or_lt (s : String) :
    escapeMarkup s = s ∨ s.length < (escapeMarkup s).length := by
  rcases flatMap_markupChar_eq_or_lt s.toList with same | longer
  · exact .inl (by rw [escapeMarkup, same, String.ofList_toList])
  · exact .inr (by rwa [escapeMarkup, String.length_ofList])

/-- Texts in a row, none of which is longer than its counterpart unless they are the same. -/
theorem forall_eq_or_length_lt {α : Type} {f g : α → String} {l : List α}
    (h : ∀ a ∈ l, f a = g a ∨ (f a).length < (g a).length) :
    (∀ a ∈ l, f a = g a) ∨
      (String.join (l.map f)).length < (String.join (l.map g)).length := by
  induction l with
  | nil => exact .inl nofun
  | cons a rest ih =>
    have others := ih fun b hb => h b (List.mem_cons_of_mem _ hb)
    simp only [List.map_cons, String.join_cons, String.length_append, List.forall_mem_cons]
    rcases h a List.mem_cons_self with same | shorter
    · rcases others with all | lt
      · exact .inl ⟨same, all⟩
      · exact .inr (by rw [same]; omega)
    · have le : (String.join (rest.map f)).length ≤ (String.join (rest.map g)).length := by
        rcases others with all | lt
        · rw [List.map_congr_left all]
        · exact lt.le
      exact .inr (by omega)

theorem join_eq_join_iff {α : Type} {f g : α → String} {l : List α}
    (h : ∀ a ∈ l, f a = g a ∨ (f a).length < (g a).length) :
    String.join (l.map f) = String.join (l.map g) ↔ ∀ a ∈ l, f a = g a := by
  constructor
  · intro same
    rcases forall_eq_or_length_lt h with all | lt
    · exact all
    · exact absurd lt (by rw [same]; exact lt_irrefl _)
  · intro all
    rw [List.map_congr_left all]

end Text

namespace Value

theorem atOnce_of_markup {v : Value} {s : String} (h : v.markup? = some s) :
    v.atOnce = ⟨.plain s, true⟩ := by
  cases v with
  | markup _ | safeObject _ _ =>
    cases h
    rfl
  | collection traits items attributes => simp only [atOnce, h]
  | _ => cases h

/-- All leaves of the value are safe, or escaping changes none of those that are. -/
def Agrees (v : Value) : Prop :=
  (∀ u ∈ v.leaves, u.markup?.isSome = true) ∨
    ∀ u ∈ v.leaves, ∀ s, u.markup? = some s → Text.escapeMarkup s = s

/-- With a single leaf there is nothing to disagree with, so a value that is no sequence agrees. -/
theorem agrees_of_single {v u : Value} (h : v.leaves = [u]) : v.Agrees := by
  unfold Agrees
  rw [h]
  simp only [List.forall_mem_singleton]
  cases u.markup? with
  | none => exact .inr nofun
  | some s => exact .inl rfl

/-- The text of a leaf that is escaped by itself. -/
def shownLeaf (u : Value) : String :=
  if !u.atOnce.safe then Text.escapeMarkup u.atOnce.text.text else u.atOnce.text.text

theorem shownLeaf_eq_iff (u : Value) : u.shownLeaf = Text.escapeMarkup u.atOnce.text.text ↔
    ∀ s, u.markup? = some s → Text.escapeMarkup s = s := by
  unfold shownLeaf
  cases h : u.markup? with
  | none => simp [safe_atOnce, h]
  | some s => simp [atOnce_of_markup h, eq_comm]

theorem shownLeaf_eq_or_lt (u : Value) : u.shownLeaf = Text.escapeMarkup u.atOnce.text.text ∨
    u.shownLeaf.length < (Text.escapeMarkup u.atOnce.text.text).length := by
  unfold shownLeaf
  cases u.atOnce.safe
  · exact .inl rfl
  · exact (Text.escapeMarkup_eq_or_lt _).imp Eq.symm id

theorem shownByLeaf_eq (v : Value) :
    v.shownByLeaf true = String.join (v.leaves.map shownLeaf) := rfl

theorem shownWhole_eq (v : Value) (h : v.leaves.all (·.atOnce.safe) = false) :
    v.shownWhole true =
      String.join (v.leaves.map fun u => Text.escapeMarkup u.atOnce.text.text) := by
  rw [shownWhole, h, Text.escapeMarkup_join, List.map_map]
  rfl

/-- Where all leaves are safe, nothing is escaped both ways. -/
theorem shownByLeaf_of_safe {v : Value} (h : v.leaves.all (·.atOnce.safe) = true) :
    v.shownByLeaf true = v.shownWhole true := by
  have bare : ∀ u ∈ v.leaves, u.shownLeaf = u.atOnce.text.text := by
    intro u hu
    rw [shownLeaf, List.all_eq_true.1 h u hu]
    rfl
  rw [shownByLeaf_eq, shownWhole, h, List.map_congr_left bare]
  rfl

theorem shownByLeaf_eq_or_lt (v : Value) :
    v.shownByLeaf true = v.shownWhole true ∨
      (v.shownByLeaf true).length < (v.shownWhole true).length := by
  rcases all : v.leaves.all (·.atOnce.safe) with _ | _
  · rw [shownByLeaf_eq, shownWhole_eq v all]
    rcases Text.forall_eq_or_length_lt fun u (_ : u ∈ v.leaves) => u.shownLeaf_eq_or_lt with
      same | shorter
    · exact .inl (congrArg String.join (List.map_congr_left same))
    · exact .inr shorter
  · exact .inl (shownByLeaf_of_safe all)

theorem shownByLeaf_eq_iff (v : Value) : v.shownByLeaf true = v.shownWhole true ↔ v.Agrees := by
  have safe : (∀ u ∈ v.leaves, u.markup?.isSome = true) ↔
      v.leaves.all (·.atOnce.safe) = true := by
    simp only [List.all_eq_true, safe_atOnce]
  rw [Agrees, safe]
  rcases all : v.leaves.all (·.atOnce.safe) with _ | _
  · rw [shownByLeaf_eq, shownWhole_eq v all,
      Text.join_eq_join_iff fun u (_ : u ∈ v.leaves) => u.shownLeaf_eq_or_lt]
    simp only [shownLeaf_eq_iff, Bool.false_eq_true, false_or]
  · exact iff_of_true (shownByLeaf_of_safe all) (.inl rfl)

end Value

namespace Engine

variable {e : Engine σ} {c : Context} {x : Expr} {l : Location} {w w₁ : World σ} {xs : Value}
  {items : List Value} {tag : Tag} {depth : Nat} {escaped : Bool}

/-- A variable tag whose expression is resolved and whose text is known beforehand. -/
theorem renderNode_variable {p : Bool} {t : String} {failure : Failure}
    (resolved : e.resolve (w.newTag ⟨x, l⟩ (.variableTag escaped)) c w.opened = (.done xs, w₁))
    (known : e.renderVariable depth (w.newTag ⟨x, l⟩ (.variableTag escaped)) xs c =
      if p then pure t else Run.fail failure) :
    e.renderNode depth c (.variableTag ⟨x, l⟩ escaped) w =
      if p then (.done t, (w₁.readied (w.newTag ⟨x, l⟩ (.variableTag escaped))).moved
        (w.newTag ⟨x, l⟩ (.variableTag escaped)) .rendered)
      else (.failed (failure.located l),
        (w₁.readied (w.newTag ⟨x, l⟩ (.variableTag escaped))).left
          (w.newTag ⟨x, l⟩ (.variableTag escaped)) failure) := by
  have text : e.renderTag depth c (w.newTag ⟨x, l⟩ (.variableTag escaped)) xs =
      if p then pure t else Run.fail failure := known
  rw [renderNode, visit_eq, resolved]
  simp only [text]
  cases p <;> rfl

/-- What a variable tag inserts for the items of a sequence with their positions. -/
theorem renderVariable_positioned (html : e.escape = ContentType.html.escape)
    (form : tag.form = .variableTag escaped) (inert : xs.Inert)
    (hi : xs.items? = some (.fixed items)) (deep : xs.height + 2 < depth) :
    e.renderVariable depth tag (.positioned items) c =
      if xs.leaves.all (·.isWritable) then pure (String.join (items.map (·.shownWhole escaped)))
      else Run.fail (.fault ⟨eachItemFailed .unwritable, none⟩) := by
  obtain ⟨depth, rfl⟩ : ∃ below, depth = below + 1 := ⟨depth - 1, by omega⟩
  have item : ∀ u ∈ items, ∀ index last,
      e.renderVariable depth tag (.eachItem u index last .null) c =
        if u.leaves.all (·.isWritable) then pure (u.shownWhole escaped)
        else Run.fail (.fault ⟨eachItemFailed .unwritable, none⟩) := by
    intro u hu
    have below : u.height < xs.height := Value.height_item hi hu
    exact renderVariable_eachItem html form (inert.item hi hu) (by omega)
  have parts : Run.each (fun u => e.renderVariable depth tag u c)
        (Library.numbered 0 (items.map fun item => (.null, item))) =
      if items.all fun u => u.leaves.all (·.isWritable) then
        pure (items.map (·.shownWhole escaped))
      else Run.fail (.fault ⟨eachItemFailed .unwritable, none⟩) :=
    (Run.each_numbered (f := fun u => e.renderVariable depth tag u c) item 0).trans
      (Run.each_ite fun _ _ => rfl)
  have numbered : (Value.positioned items).items? =
      some (.fixed (Library.numbered 0 (items.map fun item => (.null, item)))) := rfl
  rw [renderVariable, numbered, Value.leaves_of_items hi, List.all_flatMap]
  simp only [Run.eachItem, parts, bind_pure_comp, Run.map_ite]
  rfl

/-- A variable tag for `each` of an expression in a page, where the expression resolves to inert
items. If a number among the leaves is too long to be written, neither this tag nor the one for the
expression gives a text. Otherwise the tag for the expression escapes leaf by leaf, and the one for
`each` item by item; so they insert the same text if they do not escape, and else if and only if in
each item either all leaves are safe, or escaping does not change those that are. Items that are
not sequences are always like that. More items than can be counted are refused by `each`. -/
theorem variable_each (e : Engine σ) (escaped : Bool) (html : e.escape = ContentType.html.escape)
    (library : c.lookup "each" = .ok (Library.ofValue .each)) (inert : xs.Inert)
    (hi : xs.items? = some (.fixed items))
    (resolved : e.resolve (w.newTag ⟨x, l⟩ (.variableTag escaped)) c w.opened = (.done xs, w₁))
    (deep : xs.height + 2 < depth) :
    ((∃ u ∈ xs.leaves, u.isWritable = false) →
      (e.renderNode depth c (.variableTag ⟨x, l⟩ escaped) w).1 = .failed (.host .unwritable) ∧
      (xs.isCountable = true →
        (e.renderNode depth c (.variableTag ⟨x.each, l⟩ escaped) w).1 =
          .failed (.fault ⟨.renderingFailed "EachItem" .unwritable, some l⟩))) ∧
    ((∀ u ∈ xs.leaves, u.isWritable = true) →
      ∃ byLeaf w₂,
        e.renderNode depth c (.variableTag ⟨x, l⟩ escaped) w = (.done byLeaf, w₂) ∧
        byLeaf = xs.shownByLeaf escaped ∧
        (xs.isCountable = true → ∃ byItem,
          e.renderNode depth c (.variableTag ⟨x.each, l⟩ escaped) w = (.done byItem, w₂) ∧
          byItem = String.join (items.map (·.shownWhole escaped)) ∧
          (byLeaf = byItem ↔ escaped = false ∨ ∀ u ∈ items, u.Agrees))) ∧
    (xs.isCountable = false →
      (e.renderNode depth c (.variableTag ⟨x.each, l⟩ escaped) w).1 =
        .failed (.fault ⟨.filterFailed "each" .uncountable, some l⟩)) := by
  have bare := renderNode_variable resolved
    (renderVariable_inert html rfl inert (Nat.lt_of_succ_lt deep))
  have positioned (countable : xs.isCountable = true) :=
    renderNode_variable (resolve_each library countable hi resolved)
      (renderVariable_positioned html rfl inert hi deep)
  refine ⟨fun long => ?_, fun writable => ?_, fun countless => ?_⟩
  · have some : xs.leaves.all (·.isWritable) = false := by
      simpa only [List.all_eq_false, Bool.not_eq_true] using long
    rw [some] at bare positioned
    exact ⟨congrArg Prod.fst bare, fun countable => congrArg Prod.fst (positioned countable)⟩
  · have all : xs.leaves.all (·.isWritable) = true := List.all_eq_true.2 writable
    rw [all] at bare positioned
    refine ⟨_, _, bare, rfl, fun countable => ⟨_, positioned countable, rfl, ?_⟩⟩
    rw [Value.shownByLeaf_of_items hi]
    cases escaped with
    | false => exact iff_of_true rfl (.inl rfl)
    | true =>
      rw [Items.values, Text.join_eq_join_iff fun u (_ : u ∈ items) => u.shownByLeaf_eq_or_lt]
      simp only [Value.shownByLeaf_eq_iff, Bool.true_eq_false, false_or]
  · cases depth with
    | zero => exact absurd deep (Nat.not_lt_zero _)
    | succ depth => exact visit_each_of_uncountable library hi countless resolved

def eachContext (xs : Value) : Context :=
  ⟨[⟨.mapping [(.text "xs", xs)], [("each", Library.ofValue .each)]⟩]⟩

theorem variable_each_mixed :
    ∃ w₂,
      pageEngine.renderNode 6 (eachContext mixedList)
        (.variableTag ⟨.name "xs", ⟨1, 1, none⟩⟩ true) (World.start ()) =
          (.done "&lt;i&gt;<b>", w₂) ∧
      pageEngine.renderNode 6 (eachContext mixedList)
        (.variableTag ⟨Expr.each (.name "xs"), ⟨1, 1, none⟩⟩ true) (World.start ()) =
          (.done "&lt;i&gt;<b>", w₂) := by
  have leaves : mixedList.leaves = [.text "<i>", .markup "<b>"] := leaves_nested rfl rfl
  have inert : mixedList.Inert := by
    refine ⟨lasting_nested rfl rfl, itemwise_nested rfl rfl, fun u hu => ?_, fun u hu => ?_⟩ <;>
      rw [leaves] at hu <;> rcases List.mem_pair.1 hu with rfl | rfl <;> rfl
  have writable : ∀ u ∈ mixedList.leaves, u.isWritable = true := by
    rw [leaves]
    intro u hu
    rcases List.mem_pair.1 hu with rfl | rfl <;> rfl
  have agrees : ∀ u ∈ [Value.text "<i>", .list [.markup "<b>", .list []]], u.Agrees := by
    intro u hu
    rcases List.mem_pair.1 hu with rfl | rfl
    · exact Value.agrees_of_single (Value.leaves_leaf rfl)
    · have single : (Value.list [.markup "<b>", .list []]).leaves = [.markup "<b>"] := by
        simp only [Value.leaves, Value.leavesOf, List.append_nil]
      exact Value.agrees_of_single single
  have deep : mixedList.height + 2 < 6 := by decide
  have resolved : pageEngine.resolve ((World.start ()).newTag ⟨.name "xs", ⟨1, 1, none⟩⟩
      (.variableTag true)) (eachContext mixedList) (World.start ()).opened =
        (.done mixedList, (World.start ()).opened) := rfl
  obtain ⟨_, texts⟩ := variable_each pageEngine true rfl rfl inert rfl resolved deep
  obtain ⟨byLeaf, w₂, bare, leaf, counted⟩ := texts.1 writable
  obtain ⟨byItem, positioned, _, same⟩ := counted rfl
  have text : byLeaf = "&lt;i&gt;<b>" := by
    rw [leaf, Value.shownByLeaf, leaves]
    rfl
  have both : byItem = byLeaf := (same.2 (.inr agrees)).symm
  exact ⟨w₂, text ▸ bare, text ▸ both ▸ positioned⟩

/-- A list in a list that has safe and unsafe leaves: as an item it is escaped as a whole. -/
theorem mixed_item_escaped :
    (pageEngine.renderNode 6 (eachContext (.list [.list [.markup "<b>", .text "<i>"]]))
        (.variableTag ⟨.name "xs", ⟨1, 1, none⟩⟩ true) (World.start ())).1 =
      .done "<b>&lt;i&gt;" ∧
    (pageEngine.renderNode 6 (eachContext (.list [.list [.markup "<b>", .text "<i>"]]))
        (.variableTag ⟨Expr.each (.name "xs"), ⟨1, 1, none⟩⟩ true) (World.start ())).1 =
      .done "&lt;b&gt;&lt;i&gt;" := by
  refine ⟨?_, ?_⟩ <;> rfl

end Engine

end Stencil
