-- What renderings may ask of their contexts: some names, and perhaps `.`, the innermost value. In
-- two contexts that agree on a demand, the engine does the same, step by step, for every template
-- that asks for no more, if the renderables of the host ask for no more either.
import Mathlib
import Stencil.Proofs.Pieces
import Stencil.Proofs.Rendering

namespace Stencil

/-! ## Parts of expressions -/

namespace Expr

/-- Induction on expressions, with the arguments of a call taken together. -/
theorem induction {P : Expr → Prop} (name : ∀ n, P (.name n)) (top : P .top)
    (key : ∀ b k, P b → P (.key b k))
    (call : ∀ f a r, P f → (∀ x ∈ a :: r, P x) → P (.call f a r)) : ∀ e, P e :=
  @Expr.rec P (fun l => ∀ x ∈ l, P x) name top key
    (fun f a r hf ha hr => call f a r hf (List.forall_mem_cons.2 ⟨ha, hr⟩))
    (List.forall_mem_nil P) (fun _ _ ha hr => List.forall_mem_cons.2 ⟨ha, hr⟩)

theorem self_mem_parts (e : Expr) : e ∈ e.parts := by
  cases e with
  | name n => exact List.mem_singleton_self _
  | top => exact List.mem_singleton_self _
  | _ => exact List.mem_cons_self

theorem mem_partsList {x : Expr} {l : List Expr} : x ∈ partsList l ↔ ∃ e ∈ l, x ∈ e.parts := by
  induction l with
  | nil => simp [partsList]
  | cons a r ih => simp [partsList, ih]

theorem callee_mem_parts {f a : Expr} {rest : List Expr} : f ∈ (call f a rest).parts := by
  simp [parts, self_mem_parts]

theorem argument_mem_parts {f a x : Expr} {rest : List Expr} (h : x ∈ a :: rest) :
    x ∈ (call f a rest).parts := by
  simp only [parts, List.mem_cons, List.mem_append, mem_partsList]
  rcases List.mem_cons.1 h with rfl | h
  · exact .inr (.inl (.inr x.self_mem_parts))
  · exact .inr (.inr ⟨x, h, x.self_mem_parts⟩)

mutual

/-- The parts of a part are parts of the whole. -/
theorem parts_subset : ∀ {y z : Expr}, y ∈ z.parts → y.parts ⊆ z.parts
  | y, .name n, h => by
    obtain rfl := List.mem_singleton.1 h
    exact List.Subset.refl _
  | y, .top, h => by
    obtain rfl := List.mem_singleton.1 h
    exact List.Subset.refl _
  | y, .key b k, h => by
    rcases List.mem_cons.1 h with rfl | h
    · exact List.Subset.refl _
    · exact List.subset_cons_of_subset _ (parts_subset h)
  | y, .call f a r, h => by
    simp only [parts, List.mem_cons, List.mem_append] at h
    rcases h with rfl | (h | h) | h
    · exact List.Subset.refl _
    · intro x hx
      simp [parts, parts_subset h hx]
    · intro x hx
      simp [parts, parts_subset h hx]
    · intro x hx
      simp [parts, partsList_subset h hx]

theorem partsList_subset : ∀ {y : Expr} {l : List Expr}, y ∈ partsList l → y.parts ⊆ partsList l
  | y, [], h => by cases h
  | y, a :: r, h => by
    rcases List.mem_append.1 h with h | h
    · exact List.subset_append_of_subset_left _ (parts_subset h)
    · exact List.subset_append_of_subset_right _ (partsList_subset h)

end

end Expr

/-! ## What a template mentions -/

namespace Template

/-- The expression stands in a tag of the template, at any depth, whole or as a part. -/
def Mentions (t : Template) (x : Expr) : Prop := ∃ head ∈ t.heads, x ∈ head.expression.parts

theorem not_mentions_nil {x : Expr} : ¬ Mentions [] x := by
  rintro ⟨head, hhead, _⟩
  cases hhead

variable {t : Template} {n : Node} {head : Head}

theorem mem_heads (hn : n ∈ t) (h : n.head? = some head) : head ∈ t.heads := by
  have tag : n ∈ n.tags := by
    cases n with
    | text s => cases h
    | variableTag head escaped => exact List.mem_singleton_self _
    | sectionTag head inverted children inner =>
      rw [Node.tags]
      exact List.mem_cons_self
  exact List.mem_filterMap.2 ⟨n, Node.tags_subset hn tag, h⟩

theorem mentions_of_mem {x : Expr} (hn : n ∈ t) (h : n.head? = some head)
    (hx : x ∈ head.expression.parts) : t.Mentions x :=
  ⟨head, mem_heads hn h, hx⟩

/-- The tags of a section are tags of the template. -/
theorem heads_children_subset {children : Template} {inverted : Bool} {inner : String}
    (hn : .sectionTag head inverted children inner ∈ t) : children.heads ⊆ t.heads := by
  intro found hfound
  obtain ⟨tag, htag, hhead⟩ := List.mem_filterMap.1 hfound
  refine List.mem_filterMap.2 ⟨tag, Node.tags_subset hn ?_, hhead⟩
  rw [Node.tags]
  exact List.mem_cons_of_mem _ htag

theorem Mentions.of_children {children : Template} {inverted : Bool} {inner : String} {x : Expr}
    (h : children.Mentions x) (hn : .sectionTag head inverted children inner ∈ t) :
    t.Mentions x := by
  obtain ⟨found, hfound, hx⟩ := h
  exact ⟨found, heads_children_subset hn hfound, hx⟩

end Template

/-! ## Demands -/

/-- The names that may be looked up, and whether `.` may. -/
structure Demand where
  names : String → Prop
  top : Prop

namespace Demand

/-- All names, but not `.`. -/
def allNames : Demand := ⟨fun _ => True, False⟩

/-- What may stand in an expression. Keys and calls ask for nothing by themselves. -/
def Allows (q : Demand) : Expr → Prop
  | .name n => q.names n
  | .top => q.top
  | .key _ _ | .call _ _ _ => True

/-- The template asks for no more. -/
def Covers (q : Demand) (t : Template) : Prop := ∀ x, t.Mentions x → q.Allows x

theorem covers_nil (q : Demand) : q.Covers [] :=
  fun _ h => absurd h Template.not_mentions_nil

variable {q : Demand} {t : Template} {n : Node} {head : Head}

theorem allNames_covers_iff : allNames.Covers t ↔ ¬ t.Mentions .top := by
  constructor
  · intro h
    exact h .top
  · intro h x hx
    cases x with
    | top => exact h hx
    | name n => exact trivial
    | key base k => exact trivial
    | call f a rest => exact trivial

theorem Covers.tag (h : q.Covers t) (hn : n ∈ t) (hh : n.head? = some head) :
    ∀ x ∈ head.expression.parts, q.Allows x :=
  fun x hx => h x (Template.mentions_of_mem hn hh hx)

theorem Covers.children {children : Template} {inverted : Bool} {inner : String} (h : q.Covers t)
    (hn : .sectionTag head inverted children inner ∈ t) : q.Covers children :=
  fun x hx => h x (hx.of_children hn)

end Demand

/-! ## Contexts that agree -/

namespace Context

/-- The contexts give the same for all that is demanded. -/
structure AgreeOn (q : Demand) (c d : Context) : Prop where
  lookup : ∀ n, q.names n → c.lookup n = d.lookup n
  top : q.top → c.top = d.top

variable {q : Demand} {c d : Context}

theorem AgreeOn.push (h : c.AgreeOn q d) (v : Value) (filters : List (String × Value)) :
    (c.push v filters).AgreeOn q (d.push v filters) := by
  constructor
  · intro n hn
    have rest : lookupIn n c.scopes = lookupIn n d.scopes := h.lookup n hn
    simp only [Context.lookup, Context.push, lookupIn, rest]
  · intro dot
    have rest : topOf c.scopes = topOf d.scopes := h.top dot
    simp only [Context.top, Context.push, topOf, rest]

end Context

/-! ## Hosts that look no further -/

variable {σ : Type}

/-- The scripts make the same requests, in contexts that agree on what is demanded, and ask for no
template that asks for more. -/
inductive Script.AgreeOn (q : Demand) : Script σ → Script σ → Prop
  | done (answer : Answer) : AgreeOn q (.done answer) (.done answer)
  | fail (failure : Failure) : AgreeOn q (.fail failure) (.fail failure)
  | content {c d : Context} {next next' : Rendering → Script σ} : c.AgreeOn q d →
    (∀ r, AgreeOn q (next r) (next' r)) → AgreeOn q (.content c next) (.content d next')
  | value (v : Value) {c d : Context} {next next' : Rendering → Script σ} : c.AgreeOn q d →
    (∀ r, AgreeOn q (next r) (next' r)) → AgreeOn q (.value v c next) (.value v d next')
  | template {u : Template} {c d : Context} {next next' : String → Script σ} : q.Covers u →
    c.AgreeOn q d → (∀ s, AgreeOn q (next s) (next' s)) →
    AgreeOn q (.template u c next) (.template u d next')
  | escape (s : String) {next next' : String → Script σ} : (∀ s, AgreeOn q (next s) (next' s)) →
    AgreeOn q (.escape s next) (.escape s next')
  | state {next next' : TagState → Script σ} : (∀ s, AgreeOn q (next s) (next' s)) →
    AgreeOn q (.state next) (.state next')
  | outside (change : Outside σ → Outside σ) {next next' : Outside σ → Script σ} :
    (∀ o, AgreeOn q (next o) (next' o)) → AgreeOn q (.outside change next) (.outside change next')

/-- The renderables of the host look no further into contexts than is demanded: whatever they ask in
one that they are given, pushes included, they ask in any other that agrees with it on that. -/
def Host.HeedlessOn (host : Host σ) (q : Demand) : Prop :=
  ∀ name captured (tag : Tag) (c d : Context), q.Covers tag.children → c.AgreeOn q d →
    (host.script name captured tag c).AgreeOn q (host.script name captured tag d)

/-- Handlers that do the same in contexts that agree. -/
structure Script.Handlers.Steady (h : Handlers σ) (q : Demand) : Prop where
  content : ∀ {c d : Context}, c.AgreeOn q d → h.content c = h.content d
  value : ∀ v {c d : Context}, c.AgreeOn q d → h.value v c = h.value v d
  template : ∀ {u : Template} {c d : Context}, q.Covers u → c.AgreeOn q d →
    h.template u c = h.template u d

theorem Script.AgreeOn.run {q : Demand} {s s' : Script σ} {h : Handlers σ} (agree : s.AgreeOn q s')
    (steady : h.Steady q) : s.run h = s'.run h := by
  induction agree with
  | done answer => rfl
  | fail failure => rfl
  | content hc _ ih => simp only [Script.run, steady.content hc, ih]
  | value v hc _ ih => simp only [Script.run, steady.value v hc, ih]
  | template hu hc _ ih => simp only [Script.run, steady.template hu hc, ih]
  | escape s _ ih => simp only [Script.run, ih]
  | state _ ih => simp only [Script.run, ih]
  | outside change _ ih => simp only [Script.run, ih]

/-! ## Evaluation -/

namespace Evaluator

variable {ev : Evaluator σ} {q : Demand} {c d : Context}

mutual

theorem evaluate_agree (agree : c.AgreeOn q d) (x : Expr) (h : ∀ y ∈ x.parts, q.Allows y) :
    ev.evaluate c x = ev.evaluate d x := by
  cases x with
  | name n =>
    have asked : q.names n := h (.name n) (by simp [Expr.parts])
    simp only [evaluate, agree.lookup n asked]
  | top =>
    have asked : q.top := h .top (by simp [Expr.parts])
    simp only [evaluate, agree.top asked]
  | key base k =>
    simp only [Expr.parts, List.forall_mem_cons] at h
    simp only [evaluate]
    rw [evaluate_agree agree base h.2]
  | call f a rest =>
    simp only [Expr.parts, List.forall_mem_cons, List.forall_mem_append] at h
    obtain ⟨_, ⟨hf, ha⟩, hrest⟩ := h
    have callee := evaluate_agree agree f hf
    have first := evaluate_agree agree a ha
    have others := evaluateArguments_agree agree rest hrest
    simp only [evaluate, callee, first, others]

theorem evaluateArguments_agree (agree : c.AgreeOn q d) (l : List Expr)
    (h : ∀ y ∈ Expr.partsList l, q.Allows y) :
    ev.evaluateArguments c l = ev.evaluateArguments d l := by
  cases l with
  | nil => rfl
  | cons a rest =>
    simp only [Expr.partsList, List.forall_mem_append] at h
    have first := evaluate_agree agree a h.1
    have others := evaluateArguments_agree agree rest h.2
    simp only [evaluateArguments, first, others]

end

end Evaluator

/-! ## Rendering -/

theorem Run.each_congr {α β : Type} {f g : α → Run σ β} {l : List α} (h : ∀ a ∈ l, f a = g a) :
    Run.each f l = Run.each g l := by
  induction l with
  | nil => rfl
  | cons a rest ih =>
    have others := ih fun b hb => h b (List.mem_cons_of_mem _ hb)
    simp only [Run.each, h a List.mem_cons_self, others]

namespace Engine

variable {e : Engine σ} {q : Demand} {depth : Nat} {c d : Context}

/-- A tag is visited alike if its expression is evaluated and its value rendered alike. -/
theorem visit_agree {α : Type} {head : Head} {form : Form} {f g : Tag → Value → Run σ α}
    (agree : c.AgreeOn q d) (asked : ∀ x ∈ head.expression.parts, q.Allows x)
    (h : ∀ tag v, tag.form = form → f tag v = g tag v) :
    e.visit head form c f = e.visit head form d g := by
  have resolved (id : Nat) : e.resolve ⟨id, head, form⟩ c = e.resolve ⟨id, head, form⟩ d := by
    simp only [resolve, Evaluator.evaluate_agree agree head.expression asked]
  rw [e.visit_congr h]
  simp only [visit, create, bind_assoc, pure_bind, resolved]

/-- At one depth, the functions of the engine do the same in contexts that agree on a demand, for
templates and tags that ask for no more. -/
structure IsSteadyOn (e : Engine σ) (q : Demand) (depth : Nat) : Prop where
  nodes : ∀ {u c d}, q.Covers u → Context.AgreeOn q c d →
    e.renderNodes depth u c = e.renderNodes depth u d
  variableTag : ∀ {tag : Tag} v {c d}, q.Covers tag.children → Context.AgreeOn q c d →
    e.renderVariable depth tag v c = e.renderVariable depth tag v d
  sectionTag : ∀ {tag : Tag} v {c d}, q.Covers tag.children → Context.AgreeOn q c d →
    e.renderSection depth tag v c = e.renderSection depth tag v d
  item : ∀ {tag : Tag} v {c d}, q.Covers tag.children → Context.AgreeOn q c d →
    e.renderItem depth tag v c = e.renderItem depth tag v d
  value : ∀ {tag : Tag} v {c d}, q.Covers tag.children → Context.AgreeOn q c d →
    e.renderValue depth tag v c = e.renderValue depth tag v d

theorem IsSteadyOn.handlers (ih : e.IsSteadyOn q depth) {tag : Tag} (ht : q.Covers tag.children) :
    (e.handlers tag (e.renderNodes depth) (e.renderSection depth tag)
      (e.renderValue depth tag)).Steady q := by
  constructor
  · intro c d agree
    simp only [Engine.handlers, contentOf, ih.nodes ht agree]
  · intro v c d agree
    simp only [Engine.handlers, valueFor, ih.sectionTag v ht agree, ih.value v ht agree]
  · intro u c d hu agree
    simp only [Engine.handlers, ih.nodes hu agree]

/-- Only renderables get at the context; they pass it on to the engine, pushed or as it is. -/
theorem IsSteadyOn.succ_value (heedless : e.host.HeedlessOn q) (ih : e.IsSteadyOn q depth)
    {tag : Tag} (v : Value) (ht : q.Covers tag.children) (agree : c.AgreeOn q d) :
    e.renderValue (depth + 1) tag v c = e.renderValue (depth + 1) tag v d := by
  have value : ∀ u, e.renderValue depth tag u c = e.renderValue depth tag u d :=
    fun u => ih.value u ht agree
  rcases hi : v.joinedItems? with _ | items
  · by_cases hr : v.isRenderable = true
    · cases v with
      | eager text safe => simp only [renderValue]
      | deferred name captured =>
        have script := (heedless name captured tag c d ht agree).run (ih.handlers ht)
        simp only [renderValue, value, script]
      | pending body captured arguments =>
        have argument : ∀ a, (e.handlers tag (e.renderNodes depth) (e.renderSection depth tag)
            (e.renderValue depth tag)).value a c = (e.handlers tag (e.renderNodes depth)
            (e.renderSection depth tag) (e.renderValue depth tag)).value a d :=
          fun a => (ih.handlers ht).value a agree
        simp only [renderValue, value, argument]
      | custom label name captured =>
        have script := (heedless name captured tag c d ht agree).run (ih.handlers ht)
        simp only [renderValue, script]
      | eachItem item index last key =>
        have pushed := (agree.push (.mapping (Value.position index last key)) []).push item []
        simp only [renderValue, value, (ih.handlers ht).content pushed]
      | _ => simp [Value.isRenderable] at hr
    · rw [renderValue_leaf _ hi (by simpa using hr), renderValue_leaf _ hi (by simpa using hr)]
  · simp only [renderValue_of_items _ hi, value]

theorem isSteadyOn (heedless : e.host.HeedlessOn q) (depth : Nat) : e.IsSteadyOn q depth := by
  induction depth with
  | zero => constructor <;> intros <;> rfl
  | succ depth ih =>
    refine ⟨?_, ?_, ?_, ?_, fun v _ _ => ih.succ_value heedless v⟩
    · intro u c d hu agree
      simp only [renderNodes]
      congr 1
      refine Run.each_congr fun n hn => ?_
      cases n with
      | text s => rfl
      | variableTag head escaped =>
        refine visit_agree agree (hu.tag hn rfl) fun tag v hform => ?_
        have children : q.Covers tag.children := by
          simpa only [Tag.children, hform] using q.covers_nil
        exact ih.variableTag v children agree
      | sectionTag head inverted children inner =>
        refine visit_agree agree (hu.tag hn rfl) fun tag v hform => ?_
        rw [ih.sectionTag v (by simpa only [Tag.children, hform] using hu.children hn) agree]
    · intro tag v c d ht agree
      simp only [renderVariable, ih.variableTag _ ht agree, ih.value _ ht agree]
    · intro tag v c d ht agree
      simp only [renderSection, ih.nodes ht agree, ih.item _ ht agree]
    · intro tag v c d ht agree
      simp only [renderItem, ih.nodes ht (agree.push v []), ih.value _ ht agree]

end Engine

end Stencil
