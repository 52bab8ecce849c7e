-- Tags for the items of a sequence by their numbers. The numbers as keys find the items that a
-- variable tag for the sequence goes through, so one tag for each number, in order, inserts the
-- same as the tag for the sequence, unless a script behind an item looks at its tag.
import Stencil.Proofs.Chains
import Stencil.Proofs.Leaves
import Stencil.Proofs.Overlooking
import Stencil.Proofs.SequenceKeys
import Stencil.Proofs.Termination

namespace Stencil

variable {σ : Type}

/-! ## One tag for many, and many tags -/

/-- Two worlds in which the same is found outside; in the first one, a tag waits for what is
rendered for it. -/
structure World.Awaits (t : Tag) (w v : World σ) : Prop where
  outside : w.outside = v.outside
  old : t.id < w.journal.created
  waits : w.journal.stateOf t.id = .rendering

namespace Run

variable {α β γ : Type} {t : Tag}

/-- Where a tag waits for the first run, both runs end with the same value, or neither run ends with
one. -/
def Concur (t : Tag) (r s : Run σ α) : Prop :=
  ∀ ⦃w v⦄, w.Awaits t v →
    (∃ a w' v', r w = (.done a, w') ∧ s v = (.done a, v') ∧ w'.Awaits t v') ∨
      (∀ a w', r w ≠ (.done a, w')) ∧ ∀ a v', s v ≠ (.done a, v')

theorem concur_pure (a : α) : Concur t (pure a : Run σ α) (pure a) :=
  fun w v awaits => .inl ⟨a, w, v, rfl, rfl, awaits⟩

theorem Concur.bind {r s : Run σ α} {f g : α → Run σ β} (h : Concur t r s)
    (hf : ∀ a, Concur t (f a) (g a)) : Concur t (r >>= f) (s >>= g) := by
  intro w v awaits
  rcases h awaits with ⟨a, w₁, v₁, hr, hs, awaits⟩ | ⟨hr, hs⟩
  · rw [bind_apply, bind_apply, hr, hs]
    exact hf a awaits
  · refine .inr ⟨fun b w' done => ?_, fun b v' done => ?_⟩
    · obtain ⟨a, w₁, first, _⟩ := bind_eq_done.1 done
      exact hr a w₁ first
    · obtain ⟨a, v₁, first, _⟩ := bind_eq_done.1 done
      exact hs a v₁ first

theorem concur_each {f : α → Run σ β} {g : γ → Run σ β} {l : List α} {k : List γ}
    (h : List.Forall₂ (fun a c => Concur t (f a) (g c)) l k) :
    Concur t (each f l) (each g k) := by
  induction h with
  | nil => exact concur_pure []
  | cons first _ ih => exact first.bind fun b => ih.bind fun bs => concur_pure (b :: bs)

end Run

open Run (Concur)

namespace Engine

variable {e : Engine σ} {p : Value → Prop} {t : Tag} {c : Context} {depth : Nat} {escaped : Bool}

/-- A variable tag whose expression has a value inserts what is rendered for the value. -/
theorem renderNode_variable_eq_done {head : Head} {x : Value} {w w' : World σ} {s : String}
    (found : ∀ tag w, tag.head = head → e.resolve tag c w = (.done x, w)) :
    e.renderNode depth c (.variableTag head escaped) w = (.done s, w') ↔
      ∃ w₁, e.renderVariable depth (w.newTag head (.variableTag escaped)) x c
          (w.opened.readied (w.newTag head (.variableTag escaped))) = (.done s, w₁) ∧
        w' = w₁.moved (w.newTag head (.variableTag escaped)) .rendered := by
  refine visit_eq_done.trans ⟨?_, ?_⟩
  · rintro ⟨v, w₁, w₂, resolved, rendered, rfl⟩
    cases (found _ _ rfl).symm.trans resolved
    exact ⟨w₂, rendered, rfl⟩
  · rintro ⟨w₂, rendered, rfl⟩
    exact ⟨x, w.opened, w₂, found _ _ rfl, rendered, rfl⟩

/-- The new tag waits in the world in which its value is rendered. -/
theorem stateOf_entered (w : World σ) (head : Head) (form : Form) :
    (w.opened.readied (w.newTag head form)).journal.stateOf (w.newTag head form).id =
      .rendering :=
  (Journal.stateOf_move _ _ _ _).trans (if_pos rfl)

/-- A tag of its own inserts the same for an item as the tag that goes through all of them. -/
theorem concur_item (unnumbered : e.host.Unnumbered) (overlooks : e.host.OverlooksTags p)
    (ht : t.form = .variableTag escaped) {head : Head} {x : Value} (hx : p x)
    (found : ∀ tag w, tag.head = head → e.resolve tag c w = (.done x, w)) :
    Concur t (e.renderVariable depth t x c) (e.renderNode depth c (.variableTag head escaped)) := by
  intro w v awaits
  let u := v.newTag head (.variableTag escaped)
  have paired : w.Paired t u (v.opened.readied u) :=
    ⟨awaits.outside, awaits.old, Nat.lt_succ_self _,
      awaits.waits.trans (stateOf_entered v head _).symm⟩
  obtain ⟨same, after⟩ := (echoed unnumbered overlooks ht rfl depth).variableTag hx c paired
  have orderly : w.Orderly (e.renderVariable depth t x c w).2 :=
    ((e.tidies depth).variableTag t x c).any w
  have waits := (orderly.stateOf_eq awaits.old).trans awaits.waits
  rcases hr : e.renderVariable depth t x c w with ⟨a | _ | _, w'⟩ <;>
    rcases hs : e.renderVariable depth u x c (v.opened.readied u) with ⟨_ | _ | _, v'⟩ <;>
    rw [hr, hs] at same after <;> cases same
  · rw [hr] at waits
    have done := (renderNode_variable_eq_done found).2 ⟨v', hs, rfl⟩
    exact .inl ⟨a, w', v'.moved u .rendered, rfl, done, after.outside, after.first, waits⟩
  all_goals
    refine .inr ⟨nofun, fun a v'' done => ?_⟩
    obtain ⟨_, rendered, _⟩ := (renderNode_variable_eq_done found).1 done
    cases hs.symm.trans rendered

end Engine

/-- The tags for the items of a sequence by these numbers, in order. -/
def Template.numbered (x : Expr) (escaped : Bool) (place : Nat → Location) (numbers : List Nat) :
    Template :=
  numbers.map fun (i : Nat) => .variableTag ⟨.key x (Text.numeral i), place i⟩ escaped

namespace Engine

variable {e : Engine σ} {p : Value → Prop} {c : Context} {depth : Nat} {escaped : Bool}
  {x : Expr} {xs : Value} {items : List Value}

theorem resolve_of_empty (empty : e.policy = .empty) {tag : Tag} {v : Value} {w w' : World σ}
    (evaluated : e.evaluator.evaluate c tag.head.expression w = (.done v, w')) :
    e.resolve tag c w = (.done v, w') := by
  refine resolve_eq_done.2 ⟨evaluated, ?_⟩
  rw [empty]
  exact Bool.and_false _

/-- The expression with a number as its key has the item with that number. -/
theorem resolve_number (empty : e.policy = .empty)
    (found : ∀ w, e.evaluator.evaluate c x w = (.done xs, w)) (numbers : xs.Numbers items)
    {i : Nat} {u : Value} (short : Text.isWritable i = true) (item : items[i]? = some u) (tag : Tag)
    (w : World σ) (is : tag.head.expression = .key x (Text.numeral i)) :
    e.resolve tag c w = (.done u, w) := by
  refine resolve_of_empty empty ?_
  rw [is, Evaluator.evaluate, Run.bind_apply, found]
  obtain ⟨inside, _⟩ := List.getElem?_eq_some_iff.1 item
  obtain ⟨_, same, looked⟩ := numbers.front i short (Int.natCast_nonneg i) (by omega)
  cases item.symm.trans same
  simp only [looked]
  rfl

theorem renderNodes_eq_done {t : Template} {w w' : World σ} {s : String} :
    e.renderNodes (depth + 1) t c w = (.done s, w') ↔
      ∃ texts, Run.each (e.renderNode depth c) t w = (.done texts, w') ∧ String.join texts = s := by
  rw [renderNodes_succ, ← map_eq_pure_bind, Run.map_eq_done]

theorem renderVariable_eq_done {t : Tag} (fixed : xs.items? = some (.fixed items))
    {w w' : World σ} {s : String} :
    e.renderVariable (depth + 1) t xs c w = (.done s, w') ↔
      ∃ texts, Run.each (e.renderVariable depth t · c) items w = (.done texts, w') ∧
        String.join texts = s := by
  simp only [renderVariable, fixed, Run.eachItem]
  rw [← map_eq_pure_bind, Run.map_eq_done]

/-- The text of a single node. -/
theorem renderNodes_singleton {n : Node} :
    e.renderNodes (depth + 1) [n] c = e.renderNode depth c n := by
  have one : e.renderNodes (depth + 1) [n] c =
      e.renderNode depth c n >>= fun s => pure (String.join [s]) := by
    rw [renderNodes_succ]
    simp only [Run.each, bind_assoc, pure_bind]
  have same (s : String) : String.join [s] = s := by simp [String.join]
  simp only [one, same, bind_pure]

/-- The tags for all numbers concur with the tag that goes through the items. -/
theorem concur_numbered (unnumbered : e.host.Unnumbered) (overlooks : e.host.OverlooksTags p)
    (empty : e.policy = .empty) (found : ∀ w, e.evaluator.evaluate c x w = (.done xs, w))
    (numbers : xs.Numbers items) (hp : ∀ u ∈ items, p u)
    (short : ∀ i : Nat, i < items.length → Text.isWritable i = true) {t : Tag}
    (ht : t.form = .variableTag escaped) (place : Nat → Location) :
    Concur t (Run.each (e.renderVariable depth t · c) items)
      (Run.each (e.renderNode depth c)
        (Template.numbered x escaped place (List.range items.length))) := by
  refine Run.concur_each (List.forall₂_map_right_iff.2 ?_)
  refine List.forall₂_iff_get.2 ⟨by rw [List.length_range], fun i hi _ => ?_⟩
  simp only [List.get_eq_getElem, List.getElem_range]
  refine concur_item unnumbered overlooks ht (hp _ (List.getElem_mem hi)) fun tag w is => ?_
  exact resolve_number empty found numbers (short i hi) (List.getElem?_eq_getElem hi) tag w
    (by rw [is])

/-- The tags for all numbers insert the same as the tag for the sequence, and leave the same
outside. -/
theorem numbered_iff (unnumbered : e.host.Unnumbered) (overlooks : e.host.OverlooksTags p)
    (empty : e.policy = .empty) (found : ∀ w, e.evaluator.evaluate c x w = (.done xs, w))
    (fixed : xs.items? = some (.fixed items)) (numbers : xs.Numbers items) (hp : ∀ u ∈ items, p u)
    (short : ∀ i : Nat, i < items.length → Text.isWritable i = true) (place : Nat → Location)
    (l : Location) {w : World σ} {s : String} {o : Outside σ} :
    (∃ w', e.renderNodes (depth + 1) (Template.numbered x escaped place (List.range items.length)) c
        w = (.done s, w') ∧ w'.outside = o) ↔
      ∃ w', e.renderNodes (depth + 2) [.variableTag ⟨x, l⟩ escaped] c w = (.done s, w') ∧
        w'.outside = o := by
  let t := w.newTag ⟨x, l⟩ (.variableTag escaped)
  have awaits : (w.opened.readied t).Awaits t w :=
    ⟨rfl, Nat.lt_succ_self _, stateOf_entered w _ _⟩
  have resolved (tag : Tag) (w : World σ) (is : tag.head = ⟨x, l⟩) :
      e.resolve tag c w = (.done xs, w) := resolve_of_empty empty (by rw [is, found])
  rw [renderNodes_singleton]
  simp only [renderNodes_eq_done, renderNode_variable_eq_done resolved,
    renderVariable_eq_done fixed]
  rcases concur_numbered unnumbered overlooks empty found numbers hp short rfl place awaits with
    ⟨texts, w₁, v₁, one, many, after⟩ | ⟨one, many⟩
  · constructor
    · rintro ⟨w', ⟨_, done, rfl⟩, rfl⟩
      cases many.symm.trans done
      exact ⟨_, ⟨w₁, ⟨texts, one, rfl⟩, rfl⟩, after.outside⟩
    · rintro ⟨_, ⟨w', ⟨_, done, rfl⟩, rfl⟩, rfl⟩
      cases one.symm.trans done
      exact ⟨v₁, ⟨texts, many, rfl⟩, after.outside.symm⟩
  · constructor
    · rintro ⟨w', ⟨texts, done, _⟩, _⟩
      exact absurd done (many texts w')
    · rintro ⟨_, ⟨w', ⟨texts, done, _⟩, _⟩, _⟩
      exact absurd done (one texts w')

/-- On every indexed sequence, numbers and names as keys agree with what going through it yields.
Under the policy that shows nothing for what is missing, one tag for each number, in order, inserts
the same as the tag for the sequence and leaves the same outside, if the items overlook their
tags. -/
theorem keys_agree (e : Engine σ) (indexed : xs.isIndexed = true) :
    ∃ items, xs.Yields items ∧ xs.items? = some (.fixed items) ∧ xs.Numbers items ∧
      (e.policy = .empty → e.host.Unnumbered →
        (∀ i : Nat, i < items.length → Text.isWritable i = true) →
        ∀ p, e.host.OverlooksTags p → (∀ u ∈ items, p u) →
        ∀ c x, (∀ w, e.evaluator.evaluate c x w = (.done xs, w)) →
        ∀ escaped place l depth w s o,
          ((∃ w', e.renderNodes (depth + 1)
              (Template.numbered x escaped place (List.range items.length)) c w = (.done s, w') ∧
              w'.outside = o) ↔
            ∃ w', e.renderNodes (depth + 2) [.variableTag ⟨x, l⟩ escaped] c w = (.done s, w') ∧
              w'.outside = o)) := by
  obtain ⟨items, yields, fixed, numbers⟩ := Value.exists_yields indexed
  refine ⟨items, yields, fixed, numbers, ?_⟩
  intro empty unnumbered short p overlooks hp c x found escaped place l depth w s o
  exact numbered_iff unnumbered overlooks empty found fixed numbers hp short place l

/-- No finite value has a script behind it, so nothing looks at the tags for finite items. -/
theorem overlooks_finite (host : Host σ) : host.OverlooksTags (Value.Finite host) where
  items hv hi u hu :=
    Value.finite_iff.2 ((Value.finite_iff.1 hv).items Value.ordinary_tame hi hu)
  item := by
    rintro item index last key ⟨_, parts, _⟩
    exact parts item List.mem_cons_self
  argument := by
    rintro body captured arguments ⟨_, parts, _⟩ a ha
    exact parts a (List.mem_append_right _ ha)
  result := by
    rintro body captured arguments ⟨_, _, answers⟩ texts w
    rcases ran : body.callTexts host captured texts w with ⟨u | _ | _, w'⟩
    · exact answers body captured texts w u w' rfl ran
    · trivial
    · trivial
  script := by
    rintro v name captured escaped t u ⟨plain, _, _⟩ is
    cases v with
    | deferred _ _ | custom _ _ _ => cases plain
    | _ => cases is
  asks := by
    rintro v name captured escaped t ⟨plain, _, _⟩ is
    cases v with
    | deferred _ _ | custom _ _ _ => cases plain
    | _ => cases is

/-- An engine with a renderable that shows how far its tag has come. -/
def progressEngine : Engine Unit where
  host := { Host.none with script := fun _ _ _ _ => .state fun s => .done (.value (.text s.name)) }
  policy := .empty
  escape := fun p => .plain ("[" ++ p.text ++ "]")

def progressItems : List Value := [.int 7, .deferred "progress" [], .markup "!"]

/-- A context in which these items are known by a name. -/
def itemsContext (items : List Value) : Context := ⟨[⟨.mapping [(.text "xs", .list items)], []⟩]⟩

/-- Numbers, texts and renderables of the host. -/
def IsShown : Value → Prop
  | .int _ | .text _ | .markup _ | .deferred .. => True
  | _ => False

theorem overlooks_progress : progressEngine.host.OverlooksTags IsShown where
  items {v _} hv hi := by
    cases v with
    | int _ | text _ | markup _ | deferred _ _ => cases hi
    | _ => cases hv
  item hv := hv.elim
  argument hv := hv.elim
  result hv := hv.elim
  script _ _ _ _ _ := rfl
  asks _ _ _ _ := .state fun s => .done fun v answer => by
    cases answer
    trivial

theorem keys_agree_progress :
    (Value.list progressItems).isIndexed = true ∧ progressEngine.policy = .empty ∧
      progressEngine.host.Unnumbered ∧ progressEngine.host.OverlooksTags IsShown ∧
      (Value.list progressItems).Numbers progressItems ∧
      ∃ w', progressEngine.renderNodes 4
        (Template.numbered (.name "xs") true (fun i => ⟨1, 8 * i + 1, none⟩) (List.range 3))
        (itemsContext progressItems) (World.start ()) = (.done "[7][rendering]!", w') := by
  have unnumbered : progressEngine.host.Unnumbered := fun _ _ _ _ _ _ _ => rfl
  have indexed : (Value.list progressItems).isIndexed = true := rfl
  obtain ⟨items, _, fixed, numbers, rendering⟩ := keys_agree progressEngine indexed
  obtain rfl : progressItems = items := by
    cases fixed
    rfl
  have short : ∀ i : Nat, i < progressItems.length → Text.isWritable i = true := by
    decide
  have shown : ∀ u ∈ progressItems, IsShown u := by
    simp [progressItems, IsShown]
  have found (w : World Unit) : progressEngine.evaluator.evaluate (itemsContext progressItems)
      (.name "xs") w = (.done (.list progressItems), w) := rfl
  have text : (progressEngine.renderNodes 5 [.variableTag ⟨.name "xs", ⟨1, 1, none⟩⟩ true]
      (itemsContext progressItems) (World.start ())).1 = .done "[7][rendering]!" := by cbv
  obtain ⟨w', done, _⟩ := (rendering rfl unnumbered short IsShown overlooks_progress shown _ _ found
    true (fun i => ⟨1, 8 * i + 1, none⟩) ⟨1, 1, none⟩ 3 _ _ _).2 ⟨_, Prod.ext text rfl, rfl⟩
  exact ⟨rfl, rfl, unnumbered, overlooks_progress, numbers, w', done⟩

/-- An engine whose renderables show their tags. -/
def taggingEngine : Engine Unit where
  host := { Host.none with script := fun _ _ tag _ => .done (.value (.text tag.describe)) }
  policy := .empty
  escape := id

/-- An item that shows the expression of its tag tells the tag for its number from the tag for the
sequence. And a range with more items than can be counted has neither a count nor ends, though its
items are found by number. -/
theorem keys_disagree :
    Template.parse none "\x7b\x7bxs\x7d\x7d" =
        .ok [.variableTag ⟨.name "xs", ⟨1, 1, none⟩⟩ true] ∧
      Template.parse none "\x7b\x7bxs.0\x7d\x7d" =
        .ok (Template.numbered (.name "xs") true (fun _ => ⟨1, 1, none⟩) (List.range 1)) ∧
      taggingEngine.policy = .empty ∧
      (∀ w, taggingEngine.evaluator.evaluate (itemsContext [.deferred "tag" []]) (.name "xs") w =
        (.done (.list [.deferred "tag" []]), w)) ∧
      (∃ w', taggingEngine.renderNodes 9 [.variableTag ⟨.name "xs", ⟨1, 1, none⟩⟩ true]
        (itemsContext [.deferred "tag" []]) (World.start ()) =
          (.done "Tag(variable xs at line 1)", w')) ∧
      (∃ w', taggingEngine.renderNodes 9
        (Template.numbered (.name "xs") true (fun _ => ⟨1, 1, none⟩) (List.range 1))
        (itemsContext [.deferred "tag" []]) (World.start ()) =
          (.done "Tag(variable xs.0 at line 1)", w')) ∧
      (Value.range 0 (2 ^ 63) 1).isIndexed = true ∧
      (∀ key ∈ ["count", "first", "last"],
        (Value.range 0 (2 ^ 63) 1).lookup key = .error .uncountable) ∧
      (Value.range 0 (2 ^ 63) 1).lookup "0" = .ok (.int 0) ∧
      (Value.range 0 (2 ^ 63) 1).lookup "-1" = .ok (.int (2 ^ 63 - 1)) := by
  have whole : Template.parse none "\x7b\x7bxs\x7d\x7d" =
      .ok [.variableTag ⟨.name "xs", ⟨1, 1, none⟩⟩ true] := by cbv
  have first : Template.parse none "\x7b\x7bxs.0\x7d\x7d" =
      .ok (Template.numbered (.name "xs") true (fun _ => ⟨1, 1, none⟩) (List.range 1)) := by cbv
  have uncounted : ∀ key ∈ ["count", "first", "last"],
      (Value.range 0 (2 ^ 63) 1).lookup key = .error .uncountable := by
    simp only [List.forall_mem_cons]
    exact ⟨rfl, rfl, rfl, List.forall_mem_nil _⟩
  exact ⟨whole, first, rfl, fun _ => rfl, ⟨_, rfl⟩, ⟨_, rfl⟩, rfl, uncounted, rfl, rfl⟩

end Engine

end Stencil
