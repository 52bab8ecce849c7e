-- Items that know their positions. `each` makes a renderable of each item of a sequence, and a
-- section renders its content for such an item inside of the renderable, with the position in a
-- scope of its own. That does not show in the text, unless the content asks for the position; it
-- shows only in errors of the host, which leave a renderable as faults.
import Stencil.Proofs.Leaves
import Stencil.Proofs.Leaving
import Stencil.Proofs.Raising

namespace Stencil

variable {σ : Type}

/-! ## The items that `each` makes -/

/-- The items of a sequence with their positions. -/
def Value.positioned (items : List Value) : Value :=
  .list (Library.numbered 0 (items.map fun item => (.null, item)))

/-- The expression that calls `each`. -/
def Expr.each (x : Expr) : Expr := .call (.name "each") x []

namespace Run

variable {α β : Type}

/-- A run for each item with its position, where the position makes no difference. -/
theorem each_numbered {f g : Value → Run σ β} {items : List Value}
    (h : ∀ u ∈ items, ∀ index last, f (.eachItem u index last .null) = g u) (index : Nat) :
    each f (Library.numbered index (items.map fun item => (.null, item))) = each g items := by
  induction items generalizing index with
  | nil => rfl
  | cons u rest ih =>
    have others := ih (fun v hv => h v (List.mem_cons_of_mem _ hv)) (index + 1)
    simp only [List.map_cons, Library.numbered, each, others, h u List.mem_cons_self]

/-- What becomes of a failure of a run that is wrapped. -/
theorem wrap_apply (cause : HostError → Cause) (r : Run σ α) (w : World σ) :
    r.wrap cause w =
      match r w with
      | (.failed (.host error), w') => (.failed (.fault ⟨cause error, none⟩), w')
      | ended => ended := by
  unfold wrap onFailure
  rcases r w with ⟨a | failure | _, w'⟩
  · rfl
  · cases failure <;> rfl
  · rfl

/-- Errors are wrapped in each of two steps, or at the end of both. -/
theorem wrap_bind (cause : HostError → Cause) (r : Run σ α) (f : α → Run σ β) :
    (r >>= f).wrap cause = r.wrap cause >>= fun a => (f a).wrap cause := by
  funext w
  rw [wrap_apply, bind_apply, bind_apply, wrap_apply]
  rcases r w with ⟨a | failure | _, w'⟩
  · exact (wrap_apply cause (f a) w').symm
  · cases failure <;> rfl
  · rfl

/-- A failure that is wrapped already is not wrapped again. -/
theorem wrap_wrap (inner outer : HostError → Cause) (r : Run σ α) :
    (r.wrap inner).wrap outer = r.wrap inner := by
  funext w
  simp only [wrap_apply]
  rcases r w with ⟨a | failure | _, w'⟩
  · rfl
  · cases failure <;> rfl
  · rfl

theorem wrap_pure (cause : HostError → Cause) (a : α) :
    (pure a : Run σ α).wrap cause = pure a := rfl

theorem each_wrap (cause : HostError → Cause) (f : α → Run σ β) (l : List α) :
    each (fun a => (f a).wrap cause) l = (each f l).wrap cause := by
  induction l with
  | nil => rfl
  | cons a rest ih => simp only [each, ih, wrap_bind, wrap_pure]

end Run

theorem Run.each_pure {α : Type} (l : List α) : Run.each (pure : α → Run σ α) l = pure l := by
  induction l with
  | nil => rfl
  | cons a rest ih => rw [Run.each, ih]; rfl

theorem Library.each_of_items {v : Value} {items : List Value}
    (h : v.items? = some (.fixed items)) :
    (Library.each v : Run σ (List Value)) =
      pure (numbered 0 (items.map fun item => (.null, item))) := by
  cases v with
  | list _ | tuple _ | collection _ _ _ | range _ _ _ =>
    cases h
    simp only [each, Value.items?, Run.eachItem, Run.each_pure, pure_bind]
  | _ => cases h

namespace Engine

variable {e : Engine σ} {c : Context} {x : Expr} {l : Location} {form : Form} {w w₁ : World σ}
  {xs : Value} {items : List Value} {depth : Nat}

/-- A call of `each` on what an expression resolves to. -/
theorem evaluate_each (library : c.lookup "each" = .ok (Library.ofValue .each))
    (hi : xs.items? = some (.fixed items))
    (resolved : e.resolve (w.newTag ⟨x, l⟩ form) c w.opened = (.done xs, w₁)) :
    e.evaluator.evaluate c x.each w.opened =
      (ValueFunction.each.apply xs).wrap (.filterFailed "each") w₁ := by
  have present : xs.passed = xs := by
    cases xs <;> first | rfl | cases hi
  have argument := evaluateArgument_of_resolve resolved
  have arguments : Run.each (e.evaluator.evaluateArgument c) [x] w.opened = (.done [xs], w₁) :=
    Run.bind_eq_done.2 ⟨xs, w₁, present ▸ argument, rfl⟩
  have callee : e.evaluator.evaluate c (.name "each") w.opened =
      (.done (Library.ofValue .each), w.opened) := by
    rw [Evaluator.evaluate, library]
    rfl
  have filter : Evaluator.callee (.name "each") (Library.ofValue .each) w.opened =
      (.done (.generic (.library .each), []), w.opened) := rfl
  rw [Expr.each, Evaluator.evaluate_call]
  simp only [Run.bind_apply, callee, filter, arguments, Filter.apply, ValueFunction.call,
    Run.wrap_wrap]
  rfl

/-- `each` of what an expression resolves to. -/
theorem resolve_each (library : c.lookup "each" = .ok (Library.ofValue .each))
    (countable : xs.isCountable = true) (hi : xs.items? = some (.fixed items))
    (resolved : e.resolve (w.newTag ⟨x, l⟩ form) c w.opened = (.done xs, w₁)) :
    e.resolve (w.newTag ⟨x.each, l⟩ form) c w.opened = (.done (.positioned items), w₁) := by
  refine resolve_eq_done.2 ⟨(evaluate_each library hi resolved).trans ?_, rfl⟩
  simp only [ValueFunction.apply, countable, Library.each_of_items hi]
  rfl

/-- Items that cannot be counted have no positions. -/
theorem visit_each_of_uncountable {α : Type} {render : Tag → Value → Run σ α}
    (library : c.lookup "each" = .ok (Library.ofValue .each)) (hi : xs.items? = some (.fixed items))
    (countless : xs.isCountable = false)
    (resolved : e.resolve (w.newTag ⟨x, l⟩ form) c w.opened = (.done xs, w₁)) :
    (e.visit ⟨x.each, l⟩ form c render w).1 =
      .failed (.fault ⟨.filterFailed "each" .uncountable, some l⟩) := by
  have fails : (e.evaluator.evaluate c x.each).Fails w.opened
      (.fault ⟨.filterFailed "each" .uncountable, none⟩) := by
    rw [Run.Fails, evaluate_each library hi resolved]
    simp only [ValueFunction.apply, countless]
    rfl
  exact (fails_visit _).2 ⟨_, rfl, .inl (fails_resolve.2 (.inl fails))⟩

end Engine

/-! ## Sections -/

/-- The names under which an item's position is found, apart from keys. -/
def positionNames : List String := ["@index", "@indexPlusOne", "@indexIsEven", "@first", "@last"]

theorem Value.lookup_position {n : String} (h : n ∉ positionNames) (index : Nat) (last : Bool) :
    (Value.mapping (position index last .null)).lookup n = .ok .missing := by
  simp only [positionNames, List.mem_cons, List.not_mem_nil, or_false, not_or] at h
  have none : find? n (position index last .null) = none := by
    simp [find?, position, text?, Ne.symm h.1, Ne.symm h.2.1, Ne.symm h.2.2.1, Ne.symm h.2.2.2.1,
      Ne.symm h.2.2.2.2]
  rw [lookup, none]
  rfl

/-- For a template that asks for no position, a position below an item makes no difference. -/
theorem Context.agree_position {t : Template} (c : Context) {u : Value}
    (present : u.isMissing = false) (silent : ∀ n ∈ positionNames, ¬ t.Mentions (.name n))
    (index : Nat) (last : Bool) :
    ((c.push (.mapping (Value.position index last .null)) []).push u []).Agree t (c.push u []) := by
  constructor
  · intro n hn
    have unbound : n ∉ positionNames := fun h => silent n h hn
    have below :
        (c.push (.mapping (Value.position index last .null)) []).lookup n = c.lookup n := by
      simp only [Context.lookup, Context.push, lookupIn, Scope.lookup,
        Value.lookup_position unbound index last]
      rfl
    simp only [Context.lookup, Context.push, lookupIn] at below ⊢
    rw [below]
  · intro _
    simp [Context.top, Context.push, topOf, present]

namespace Value

/-- A sequence with a size is true if and only if it has items, as all lists, tuples and ranges are.
-/
def Candid (v : Value) : Prop :=
  ∀ items, v.items? = some (.fixed items) → v.truth = .ok !items.isEmpty

/-- Only a sequence of the host may have a truth of its own. -/
theorem candid_of_host {v : Value}
    (h : ∀ traits items attributes, v = .collection traits items attributes → traits.truth = none) :
    v.Candid := by
  intro items is
  have sized : v.size? = some items.length := by rw [size?_eq, is]; rfl
  have counted : (items.length != 0) = !items.isEmpty := by cases items <;> rfl
  cases v with
  | collection traits items attributes =>
    cases is
    simp [truth, h _ _ _ rfl]
  | list | tuple | range => simp only [truth, sized, counted]
  | _ => cases is

theorem candid_list (items : List Value) : (list items).Candid :=
  candid_of_host fun _ _ _ h => nomatch h

end Value

namespace Engine

variable {e : Engine σ} {c : Context} {x : Expr} {l : Location} {w w₁ : World σ} {xs u : Value}
  {items : List Value} {children : Template} {tag tag' : Tag}

/-- The cause that wraps an error in the content of a section for an item. -/
def eachItemFailed : HostError → Cause := .renderingFailed "EachItem"

/-- The content for an item with its position is the content for the item, with errors wrapped. -/
theorem renderItem_eachItem (heedless : e.host.Heedless children)
    (silent : ∀ n ∈ positionNames, ¬ children.Mentions (.name n))
    (holds : tag'.isSection = true) (content : tag.children = children)
    (content' : tag'.children = children)
    (plain : u.isRenderable = false) (present : u.isMissing = false) (depth index : Nat)
    (last : Bool) :
    e.renderItem (depth + 1) tag' (.eachItem u index last .null) c =
      (e.renderItem depth tag u c).wrap eachItemFailed := by
  cases depth with
  | zero => rfl
  | succ depth =>
    have unseen := (isSteady heedless depth).nodes (.refl children)
      (c.agree_position present silent index last)
    have bare : e.renderItem (depth + 1) tag u c =
        Passage.plain <$> e.renderNodes depth children (c.push u []) := by
      simp [renderItem, plain, content]
    have around : e.renderValue (depth + 1) tag' (.eachItem u index last .null) c =
        Run.wrap eachItemFailed
          ((fun s => ⟨.plain s, true⟩) <$> e.renderNodes depth children (c.push u [])) := by
      simp only [renderValue, handlers, contentOf, holds, content', if_true, unseen, bind_pure_comp]
      rfl
    have inserted : e.renderItem (depth + 2) tag' (.eachItem u index last .null) c =
        e.insert tag' <$> e.renderValue (depth + 1) tag' (.eachItem u index last .null) c := by
      simp [renderItem, Value.isRenderable]
    rw [inserted, around, bare, Run.wrap, Run.map_onFailure, Functor.map_map]
    simp only [insert_safe]
    rfl

/-- A section for the items of a sequence with their positions is the section for the sequence,
with errors wrapped. -/
theorem renderSection_positioned {inner : String} (heedless : e.host.Heedless children)
    (silent : ∀ n ∈ positionNames, ¬ children.Mentions (.name n))
    (form : tag.form = .sectionTag false children inner)
    (form' : tag'.form = .sectionTag false children inner)
    (plain : ∀ u ∈ items, u.isRenderable = false ∧ u.isMissing = false)
    (hi : xs.items? = some (.fixed items)) (depth : Nat) :
    e.renderSection (depth + 2) tag' (.positioned items) c =
      (e.renderSection (depth + 1) tag xs c).wrap eachItemFailed := by
  have numbered : (Value.positioned items).items? =
      some (.fixed (Library.numbered 0 (items.map fun item => (.null, item)))) := rfl
  have each : Run.each (fun u => e.renderItem (depth + 1) tag' u c)
      (Library.numbered 0 (items.map fun item => (.null, item))) =
        (Run.each (fun u => e.renderItem depth tag u c) items).wrap eachItemFailed := by
    rw [← Run.each_wrap]
    refine Run.each_numbered (fun u hu index last => ?_) 0
    exact renderItem_eachItem heedless silent (by simp only [Tag.isSection, form'])
      (by simp only [Tag.children, form]) (by simp only [Tag.children, form']) (plain u hu).1
      (plain u hu).2 depth index last
  simp only [renderSection, Tag.isInverted, form, form', hi, numbered, Run.eachItem, each,
    Run.wrap_bind, Run.wrap_pure, Bool.false_eq_true, if_false]

theorem renderSection_positioned_inverted {inner : String}
    (form : tag.form = .sectionTag true children inner)
    (form' : tag'.form = .sectionTag true children inner) (candid : xs.Candid)
    (hi : xs.items? = some (.fixed items)) (depth : Nat) :
    e.renderSection (depth + 1) tag' (.positioned items) c =
      e.renderSection (depth + 1) tag xs c := by
  have same : (Value.positioned items).truth = xs.truth := by
    rw [candid items hi, Value.positioned, Value.candid_list _ _ rfl]
    cases items <;> rfl
  simp only [renderSection, Tag.isInverted, Tag.children, form, form', same, if_true]

end Engine

namespace Engine

variable {e : Engine σ} {c : Context} {x : Expr} {l : Location} {w w₁ w' : World σ} {xs : Value}
  {items : List Value} {children : Template} {tag : Tag} {error : HostError}

/-- An error of the host that leaves a section for plain items leaves its content for one of them.
-/
theorem leaves_of_renderSection {inner : String}
    (form : tag.form = .sectionTag false children inner)
    (keys : ∀ key, children.HasKey key → Text.Numeral.read key.toList ≠ .malformed)
    (plain : ∀ u ∈ items, u.isRenderable = false) (hi : xs.items? = some (.fixed items))
    {depth : Nat} (failed : e.renderSection depth tag xs c w = (.failed (.host error), w')) :
    ∃ u ∈ items, ∃ d w₂, error.Leaves e (Text.Numeral.read ·.toList ≠ .malformed)
      (.nodes d children (c.push u [])) w₂ := by
  have upright : tag.isInverted = false := by simp only [Tag.isInverted, form]
  have content : tag.children = children := by simp only [Tag.children, form]
  have fails := congrArg Prod.fst failed
  cases depth with
  | zero => cases failed
  | succ depth =>
    obtain ⟨u, _, comes, fails⟩ | ⟨_, ends⟩ := (fails_renderSection_items upright hi).1 fails
    swap
    · exact ends.elim
    have member : u ∈ items := mem_of_comes comes
    cases depth with
    | zero => cases fails
    | succ depth =>
      rcases fails_renderItem.1 fails with ⟨renderable, _⟩ | ⟨_, fails⟩
      · rw [plain u member] at renderable
        cases renderable
      · rw [content] at fails
        have inside : (Task.nodes depth children (c.push u [])).Enclosed (fun _ => True)
            (Text.Numeral.read ·.toList ≠ .malformed) :=
          ⟨keys, fun _ _ => ⟨trivial, fun _ _ => trivial⟩⟩
        exact ⟨u, member, depth, _, leaves_of_fails inside fails⟩

/-- How a tag ends, given how the rendering of its section did. -/
def closing (tag : Tag) : Outcome Passage × World σ → Outcome String × World σ
  | (.done p, w) => (.done p.text, w.moved tag .rendered)
  | (.failed f, w) => (.failed (f.located tag.head.location), w.left tag f)
  | (.exhausted, w) => (.exhausted, w)

theorem closing_congr {tag' : Tag} (id : tag'.id = tag.id)
    (place : tag'.head.location = tag.head.location) (ended : Outcome Passage × World σ) :
    closing tag' ended = closing tag ended := by
  rcases ended with ⟨p | f | _, w⟩
  · simp only [closing, World.moved, id]
  · cases f <;> simp only [closing, World.left, World.moved, id, place]
  · rfl

/-- A section whose expression is resolved. -/
theorem renderNode_section {inverted : Bool} {inner : String}
    (resolved : e.resolve (w.newTag ⟨x, l⟩ (.sectionTag inverted children inner)) c w.opened =
      (.done xs, w₁)) (depth : Nat) :
    e.renderNode depth c (.sectionTag ⟨x, l⟩ inverted children inner) w =
      closing (w.newTag ⟨x, l⟩ (.sectionTag inverted children inner))
        (e.renderSection depth (w.newTag ⟨x, l⟩ (.sectionTag inverted children inner)) xs c
          (w₁.readied (w.newTag ⟨x, l⟩ (.sectionTag inverted children inner)))) := by
  have text : e.renderTag depth c (w.newTag ⟨x, l⟩ (.sectionTag inverted children inner)) xs =
      e.renderSection depth (w.newTag ⟨x, l⟩ (.sectionTag inverted children inner)) xs c >>=
        fun p => pure p.text := rfl
  rw [renderNode, visit_eq, resolved]
  simp only [text, Run.bind_apply]
  rcases e.renderSection depth _ xs c _ with ⟨p | f | _, w₂⟩ <;> rfl

/-- A section for the items of a sequence with their positions ends as the section for the sequence
does, with an error of the host wrapped. -/
theorem renderNode_each {inner : String} (library : c.lookup "each" = .ok (Library.ofValue .each))
    (heedless : e.host.Heedless children)
    (silent : ∀ n ∈ positionNames, ¬ children.Mentions (.name n))
    (countable : xs.isCountable = true) (hi : xs.items? = some (.fixed items))
    (plain : ∀ u ∈ items, u.isRenderable = false ∧ u.isMissing = false)
    (resolved : e.resolve (w.newTag ⟨x, l⟩ (.sectionTag false children inner)) c w.opened =
      (.done xs, w₁)) (depth : Nat) :
    e.renderNode (depth + 2) c (.sectionTag ⟨x.each, l⟩ false children inner) w =
      closing (w.newTag ⟨x, l⟩ (.sectionTag false children inner))
        ((e.renderSection (depth + 1) (w.newTag ⟨x, l⟩ (.sectionTag false children inner)) xs
          c).wrap eachItemFailed
            (w₁.readied (w.newTag ⟨x, l⟩ (.sectionTag false children inner)))) := by
  have wrapped : e.renderSection (depth + 2)
        (w.newTag ⟨x.each, l⟩ (.sectionTag false children inner)) (.positioned items) c =
      (e.renderSection (depth + 1) (w.newTag ⟨x, l⟩ (.sectionTag false children inner)) xs
        c).wrap eachItemFailed :=
    renderSection_positioned heedless silent rfl rfl plain hi depth
  rw [renderNode_section (resolve_each library countable hi resolved), wrapped]
  exact closing_congr rfl rfl _

/-- An inverted section only asks whether there are items. -/
theorem renderNode_each_inverted {inner : String}
    (library : c.lookup "each" = .ok (Library.ofValue .each))
    (countable : xs.isCountable = true) (candid : xs.Candid)
    (hi : xs.items? = some (.fixed items))
    (resolved : e.resolve (w.newTag ⟨x, l⟩ (.sectionTag true children inner)) c w.opened =
      (.done xs, w₁)) (depth : Nat) :
    e.renderNode (depth + 1) c (.sectionTag ⟨x.each, l⟩ true children inner) w =
      e.renderNode (depth + 1) c (.sectionTag ⟨x, l⟩ true children inner) w := by
  have same : e.renderSection (depth + 1)
        (w.newTag ⟨x.each, l⟩ (.sectionTag true children inner)) (.positioned items) c =
      e.renderSection (depth + 1) (w.newTag ⟨x, l⟩ (.sectionTag true children inner)) xs c :=
    renderSection_positioned_inverted rfl rfl candid hi depth
  rw [renderNode_section (resolve_each library countable hi resolved), renderNode_section resolved,
    same]
  exact closing_congr rfl rfl _

/-- A section for `each` of an expression, where the content mentions no position and renderables
do not look into contexts. It does what the section for the expression does: the same text,
or the same fault at the same place, in the same world. Only an error of the host that leaves the
content as it is, because a key is too long a number or because a value raises it that is asked for
a key or for its truth, written or gone through there, becomes a fault in the rendering of an item.
A sequence with more items than can be counted is refused by `each`. -/
theorem section_each (e : Engine σ) (inverted : Bool) (inner : String)
    (library : c.lookup "each" = .ok (Library.ofValue .each))
    (heedless : e.host.Heedless children)
    (silent : ∀ n ∈ positionNames, ¬ children.Mentions (.name n))
    (keys : ∀ key, children.HasKey key → Text.Numeral.read key.toList ≠ .malformed)
    (candid : xs.Candid) (hi : xs.items? = some (.fixed items))
    (plain : ∀ u ∈ items, u.isRenderable = false ∧ u.isMissing = false)
    (resolved : e.resolve (w.newTag ⟨x, l⟩ (.sectionTag inverted children inner)) c w.opened =
      (.done xs, w₁)) (depth : Nat) :
    (xs.isCountable = true →
      e.renderNode (if inverted then depth + 1 else depth + 2) c
          (.sectionTag ⟨x.each, l⟩ inverted children inner) w =
        e.renderNode (depth + 1) c (.sectionTag ⟨x, l⟩ inverted children inner) w ∨
      inverted = false ∧ ∃ error w',
        (∃ u ∈ items, ∃ d w₂, error.Leaves e (Text.Numeral.read ·.toList ≠ .malformed)
          (.nodes d children (c.push u [])) w₂) ∧
        e.renderNode (depth + 1) c (.sectionTag ⟨x, l⟩ inverted children inner) w =
          (.failed (.host error), w') ∧
        e.renderNode (depth + 2) c (.sectionTag ⟨x.each, l⟩ inverted children inner) w =
          (.failed (.fault ⟨.renderingFailed "EachItem" error, some l⟩),
            w'.moved (w.newTag ⟨x, l⟩ (.sectionTag inverted children inner)) .failed)) ∧
    (xs.isCountable = false →
      (e.renderNode depth c (.sectionTag ⟨x.each, l⟩ inverted children inner) w).1 =
        .failed (.fault ⟨.filterFailed "each" .uncountable, some l⟩)) := by
  refine ⟨fun countable => ?_, fun countless => visit_each_of_uncountable library hi countless
    resolved⟩
  cases inverted with
  | true => exact .inl (renderNode_each_inverted library countable candid hi resolved depth)
  | false =>
    have around := renderNode_each library heedless silent countable hi plain resolved depth
    rw [if_neg Bool.false_ne_true, around, renderNode_section resolved, Run.wrap_apply]
    rcases content : e.renderSection (depth + 1)
      (w.newTag ⟨x, l⟩ (.sectionTag false children inner)) xs c
      (w₁.readied (w.newTag ⟨x, l⟩ (.sectionTag false children inner))) with
      ⟨p | ⟨f | error⟩ | _, w₂⟩
    · exact .inl rfl
    · exact .inl rfl
    · have leaves := leaves_of_renderSection rfl keys (fun u hu => (plain u hu).1) hi content
      exact .inr ⟨rfl, error, w₂, leaves, rfl, rfl⟩
    · exact .inl rfl

/-- An engine with a function that makes numbers grow. -/
def growingEngine : Engine Unit where
  host.call := fun name _ arguments o =>
    match arguments with
    | [.int i] => (.ok (.int (10 * i)), o)
    | _ => (.error (.host (.raised "TypeError" name)), o)
  host.script := fun _ _ _ _ => .done (.rendering ⟨.plain "", true⟩)
  policy := .empty
  escape := ContentType.html.escape

def growingContext (i : Int) : Context :=
  ⟨[⟨.mapping [(.text "xs", .list [.int i])],
    [("times10", .filter (.generic (.host "times10")) []), ("each", Library.ofValue .each)]⟩]⟩

def growingContent : Template :=
  [.variableTag ⟨.call (.name "times10") .top [], ⟨1, 8, none⟩⟩ true]

theorem growingHost_heedless (t : Template) : growingEngine.host.Heedless t :=
  fun _ _ _ _ _ _ _ => .done _

theorem mentioned_growing {y : Expr} (h : growingContent.Mentions y) :
    y ∈ [.call (.name "times10") .top [], .name "times10", .top] := by
  simpa [Template.Mentions, growingContent, Template.heads, Template.tags, Node.tagsList, Node.tags,
    Node.head?, Expr.parts, Expr.partsList] using h

theorem growing_silent : ∀ n ∈ positionNames, ¬ growingContent.Mentions (.name n) := by
  intro n hn h
  have name : n = "times10" := by simpa using mentioned_growing h
  subst name
  revert hn
  decide

theorem section_each_growing :
    ∃ w', growingEngine.renderNode 8 (growingContext 12)
        (.sectionTag ⟨Expr.each (.name "xs"), ⟨1, 1, none⟩⟩ false growingContent "")
        (World.start ()) = (.done "120", w') ∧
      growingEngine.renderNode 7 (growingContext 12)
        (.sectionTag ⟨.name "xs", ⟨1, 1, none⟩⟩ false growingContent "") (World.start ()) =
          (.done "120", w') := by
  have keys : ∀ key, growingContent.HasKey key → Text.Numeral.read key.toList ≠ .malformed := by
    intro key hkey
    rcases Template.hasKey_iff.1 hkey with h | ⟨base, h⟩
    · have name : key = "times10" := by simpa using mentioned_growing h
      subst name
      decide
    · exact absurd (mentioned_growing h) (by simp)
  have resolved : growingEngine.resolve ((World.start ()).newTag ⟨.name "xs", ⟨1, 1, none⟩⟩
      (.sectionTag false growingContent "")) (growingContext 12) (World.start ()).opened =
        (.done (.list [.int 12]), (World.start ()).opened) := rfl
  have plain : ∀ u ∈ [Value.int 12], u.isRenderable = false ∧ u.isMissing = false := by
    simp [Value.isRenderable, Value.isMissing]
  have text : growingEngine.renderNode 7 (growingContext 12)
      (.sectionTag ⟨.name "xs", ⟨1, 1, none⟩⟩ false growingContent "") (World.start ()) =
        (.done "120", _) := rfl
  have ends := section_each growingEngine false "" rfl (growingHost_heedless _) growing_silent keys
    (Value.candid_list _) rfl plain resolved 6
  rcases ends.1 rfl with same | ⟨_, _, _, _, failed, _⟩
  · exact ⟨_, same.trans text, text⟩
  · cases text.symm.trans failed

theorem isWritable_iff (i : Int) :
    Text.isWritable i = true ↔ i.natAbs < 10 ^ Text.longestNumeral := by
  rw [Text.isWritable, decide_eq_true_iff]
  exact Nat.length_toDigits_le_iff (by decide) (by decide)

theorem isWritable_tenfold {k : Nat} (h : k + 1 = Text.longestNumeral) :
    Text.isWritable (10 * 10 ^ k) = false := by
  rw [Bool.eq_false_iff, ne_eq, isWritable_iff, ← h, Int.natAbs_mul, Int.natAbs_pow, pow_succ']
  exact lt_irrefl _

/-- A tag for a number that is too long to be written fails with the error of writing it. -/
theorem fails_unwritable {i : Int} {escaped : Bool} (long : Text.isWritable i = false)
    (resolved : e.resolve (w.newTag ⟨x, l⟩ (.variableTag escaped)) c w.opened =
      (.done (.int i), w₁)) (depth : Nat) :
    (e.renderNodes (depth + 3) [.variableTag ⟨x, l⟩ escaped] c).Fails w (.host .unwritable) := by
  have number (tag : Tag) (c : Context) : e.renderValue (depth + 1) tag (.int i) c =
      Run.fail (.host .unwritable) := by
    rw [renderValue_leaf _ rfl rfl, leaf_eq rfl, Value.isWritable, long]
    rfl
  rw [renderNodes_succ, Run.fails_bind_pure]
  refine Run.fails_each.2 ⟨_, w, .here, ?_⟩
  refine (fails_visit _).2 ⟨.host .unwritable, rfl, .inr ⟨.int i, _, resolved, ?_⟩⟩
  refine (fails_renderVariable_value rfl).2 ?_
  rw [number]
  exact Run.fails_fail.2 rfl

/-- The least number whose text is too long, made from one that can still be written: its error
leaves the section, and becomes a fault in the section for `each`. -/
theorem number_too_long_in_section :
    (growingEngine.renderNode 7 (growingContext (10 ^ 4299))
        (.sectionTag ⟨.name "xs", ⟨1, 1, none⟩⟩ false growingContent "") (World.start ())).1 =
      .failed (.host .unwritable) ∧
    (growingEngine.renderNode 8 (growingContext (10 ^ 4299))
        (.sectionTag ⟨Expr.each (.name "xs"), ⟨1, 1, none⟩⟩ false growingContent "")
        (World.start ())).1 =
      .failed (.fault ⟨.renderingFailed "EachItem" .unwritable, some ⟨1, 1, none⟩⟩) := by
  have long := isWritable_tenfold (k := 4299) rfl
  generalize (10 ^ 4299 : Int) = i at long
  have resolved : growingEngine.resolve ((World.start ()).newTag ⟨.name "xs", ⟨1, 1, none⟩⟩
      (.sectionTag false growingContent "")) (growingContext i) (World.start ()).opened =
        (.done (.list [.int i]), (World.start ()).opened) := rfl
  have plain : ∀ u ∈ [Value.int i], u.isRenderable = false ∧ u.isMissing = false := by
    simp [Value.isRenderable, Value.isMissing]
  have items : (Value.list [.int i]).items? = some (.fixed [.int i]) := rfl
  have around := renderNode_each rfl (growingHost_heedless _) growing_silent rfl items plain
    resolved 6
  have fails : (growingEngine.renderSection 7 ((World.start ()).newTag ⟨.name "xs", ⟨1, 1, none⟩⟩
      (.sectionTag false growingContent "")) (.list [.int i]) (growingContext i)).Fails
        ((World.start ()).opened.readied ((World.start ()).newTag ⟨.name "xs", ⟨1, 1, none⟩⟩
          (.sectionTag false growingContent ""))) (.host .unwritable) :=
    (fails_renderSection_items rfl items).2 (.inl
      ⟨.int i, _, Run.Comes.here, fails_renderItem.2 (.inr ⟨rfl, fails_unwritable long rfl 2⟩)⟩)
  obtain ⟨w', failed⟩ := Run.fails_iff.1 fails
  rw [renderNode_section resolved, around, Run.wrap_apply, failed]
  exact ⟨rfl, rfl⟩

end Engine

end Stencil
