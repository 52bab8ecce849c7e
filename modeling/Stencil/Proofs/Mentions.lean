-- What a rendering asks of its context: the names that stand in the tags of the template and, where
-- `.` stands in one, the innermost value. In two contexts that agree on these a template does the
-- same, step by step, so nothing that it does not mention makes a difference.
import Stencil.Library.Standard
import Stencil.Proofs.Demands

namespace Stencil

/-! ## What a template mentions -/

namespace Template

/-- The first template asks for nothing for which the second one does not ask. -/
structure Within (t u : Template) : Prop where
  names : ∀ n, t.Mentions (.name n) → u.Mentions (.name n)
  top : t.Mentions .top → u.Mentions .top

theorem Within.refl (t : Template) : t.Within t := ⟨fun _ h => h, id⟩

/-- What a template mentions, as a demand. -/
def demand (t : Template) : Demand := ⟨fun n => t.Mentions (.name n), t.Mentions .top⟩

theorem demand_covers_iff {t u : Template} : u.demand.Covers t ↔ t.Within u := by
  constructor
  · intro h
    exact ⟨fun n => h (.name n), h .top⟩
  · intro h x hx
    cases x with
    | name n => exact h.names n hx
    | top => exact h.top hx
    | key base k => exact trivial
    | call f a rest => exact trivial

end Template

/-! ## Contexts that agree -/

namespace Context

/-- The contexts give the same for all that a template mentions. -/
structure Agree (t : Template) (c d : Context) : Prop where
  lookup : ∀ n, t.Mentions (.name n) → c.lookup n = d.lookup n
  top : t.Mentions .top → c.top = d.top

variable {t : Template} {c d : Context}

theorem agreeOn_demand_iff : c.AgreeOn t.demand d ↔ c.Agree t d :=
  ⟨fun h => ⟨h.lookup, h.top⟩, fun h => ⟨h.lookup, h.top⟩⟩

theorem Agree.push (h : c.Agree t d) (v : Value) (filters : List (String × Value)) :
    (c.push v filters).Agree t (d.push v filters) :=
  agreeOn_demand_iff.1 ((agreeOn_demand_iff.2 h).push v filters)

/-- Contexts agree if their scopes do so one by one and have the same value where it matters. -/
theorem agree_of_scopes {inner outer outer' : List Scope}
    (hl : ∀ n, t.Mentions (.name n) → lookupIn n outer = lookupIn n outer')
    (ht : t.Mentions .top → topOf outer = topOf outer') :
    Agree t ⟨inner ++ outer⟩ ⟨inner ++ outer'⟩ := by
  induction inner with
  | nil => exact ⟨hl, ht⟩
  | cons s rest ih => exact ih.push s.value s.filters

end Context

/-! ## Hosts that do not look into contexts -/

variable {σ : Type}

/-- The scripts make the same requests, in contexts that agree on what the template mentions, and
ask for no template that mentions more. -/
inductive Script.Agree (t : Template) : Script σ → Script σ → Prop
  | done (answer : Answer) : Agree t (.done answer) (.done answer)
  | fail (failure : Failure) : Agree t (.fail failure) (.fail failure)
  | content {c d : Context} {next next' : Rendering → Script σ} : c.Agree t d →
    (∀ r, Agree t (next r) (next' r)) → Agree t (.content c next) (.content d next')
  | value (v : Value) {c d : Context} {next next' : Rendering → Script σ} : c.Agree t d →
    (∀ r, Agree t (next r) (next' r)) → Agree t (.value v c next) (.value v d next')
  | template {u : Template} {c d : Context} {next next' : String → Script σ} : u.Within t →
    c.Agree t d → (∀ s, Agree t (next s) (next' s)) →
    Agree t (.template u c next) (.template u d next')
  | escape (s : String) {next next' : String → Script σ} : (∀ s, Agree t (next s) (next' s)) →
    Agree t (.escape s next) (.escape s next')
  | state {next next' : TagState → Script σ} : (∀ s, Agree t (next s) (next' s)) →
    Agree t (.state next) (.state next')
  | outside (change : Outside σ → Outside σ) {next next' : Outside σ → Script σ} :
    (∀ o, Agree t (next o) (next' o)) → Agree t (.outside change next) (.outside change next')

/-- The renderables of the host do not look into contexts: whatever they ask in one that they are
given, pushes included, they ask in any other that agrees with it on what the template mentions. -/
def Host.Heedless (host : Host σ) (t : Template) : Prop :=
  ∀ name captured (tag : Tag) (c d : Context), tag.children.Within t → c.Agree t d →
    (host.script name captured tag c).Agree t (host.script name captured tag d)

theorem Script.Agree.on_demand {t : Template} {s s' : Script σ} (agree : s.Agree t s') :
    s.AgreeOn t.demand s' := by
  induction agree with
  | done answer => exact .done answer
  | fail failure => exact .fail failure
  | content hc _ ih => exact .content (Context.agreeOn_demand_iff.2 hc) ih
  | value v hc _ ih => exact .value v (Context.agreeOn_demand_iff.2 hc) ih
  | template hu hc _ ih =>
    exact .template (Template.demand_covers_iff.2 hu) (Context.agreeOn_demand_iff.2 hc) ih
  | escape s _ ih => exact .escape s ih
  | state _ ih => exact .state ih
  | outside change _ ih => exact .outside change ih

theorem Host.Heedless.on_demand {host : Host σ} {t : Template} (h : host.Heedless t) :
    host.HeedlessOn t.demand := by
  intro name captured tag c d ht agree
  have children : tag.children.Within t := Template.demand_covers_iff.1 ht
  exact (h name captured tag c d children (Context.agreeOn_demand_iff.1 agree)).on_demand

/-! ## Rendering -/

namespace Engine

variable {e : Engine σ} {t : Template}

/-- At one depth, the functions of the engine do the same in contexts that agree on what a template
mentions, for tags that mention no more. -/
structure IsSteady (e : Engine σ) (t : Template) (depth : Nat) : Prop where
  nodes : ∀ {u c d}, u.Within t → Context.Agree t c d →
    e.renderNodes depth u c = e.renderNodes depth u d
  variableTag : ∀ {tag : Tag} v {c d}, tag.children.Within t → Context.Agree t c d →
    e.renderVariable depth tag v c = e.renderVariable depth tag v d
  sectionTag : ∀ {tag : Tag} v {c d}, tag.children.Within t → Context.Agree t c d →
    e.renderSection depth tag v c = e.renderSection depth tag v d
  item : ∀ {tag : Tag} v {c d}, tag.children.Within t → Context.Agree t c d →
    e.renderItem depth tag v c = e.renderItem depth tag v d
  value : ∀ {tag : Tag} v {c d}, tag.children.Within t → Context.Agree t c d →
    e.renderValue depth tag v c = e.renderValue depth tag v d

theorem isSteady (heedless : e.host.Heedless t) (depth : Nat) : e.IsSteady t depth := by
  have steady : e.IsSteadyOn t.demand depth := isSteadyOn heedless.on_demand depth
  have covers {u : Template} (h : u.Within t) : t.demand.Covers u := Template.demand_covers_iff.2 h
  have agrees {c d : Context} (h : c.Agree t d) : c.AgreeOn t.demand d :=
    Context.agreeOn_demand_iff.2 h
  constructor
  · intro u c d hu agree
    exact steady.nodes (covers hu) (agrees agree)
  · intro tag v c d ht agree
    exact steady.variableTag v (covers ht) (agrees agree)
  · intro tag v c d ht agree
    exact steady.sectionTag v (covers ht) (agrees agree)
  · intro tag v c d ht agree
    exact steady.item v (covers ht) (agrees agree)
  · intro tag v c d ht agree
    exact steady.value v (covers ht) (agrees agree)

/-- A rendering depends only on what its template mentions. In two contexts that agree on it, the
engine does the same: the same text or the same failure at the same place, and the same outside. So
a scope of filters may be left out if it binds no mentioned name; a scope may have other filters as
long as the mentioned ones stay; and where `.` does not stand in the template, its data may be other
data as long as the mentioned keys keep their values. This holds at every depth, so for `render`
too. -/
theorem depends_on_mentioned_only (e : Engine σ) (depth : Nat) (t : Template)
    (heedless : e.host.Heedless t) :
    (∀ c d : Context, c.Agree t d → e.renderNodes depth t c = e.renderNodes depth t d) ∧
    (∀ inner outer filters, (∀ n, t.Mentions (.name n) → filters.lookup n = none) →
      e.renderNodes depth t ⟨inner ++ ⟨.missing, filters⟩ :: outer⟩ =
        e.renderNodes depth t ⟨inner ++ outer⟩) ∧
    (∀ inner outer value filters filters',
      (∀ n, t.Mentions (.name n) → filters.lookup n = filters'.lookup n) →
      e.renderNodes depth t ⟨inner ++ ⟨value, filters⟩ :: outer⟩ =
        e.renderNodes depth t ⟨inner ++ ⟨value, filters'⟩ :: outer⟩) ∧
    (¬ t.Mentions .top → ∀ inner outer value value' filters,
      (∀ n, t.Mentions (.name n) → value.lookup n = value'.lookup n) →
      e.renderNodes depth t ⟨inner ++ ⟨value, filters⟩ :: outer⟩ =
        e.renderNodes depth t ⟨inner ++ ⟨value', filters⟩ :: outer⟩) := by
  have alike {c d : Context} (agree : c.Agree t d) :
      e.renderNodes depth t c = e.renderNodes depth t d :=
    (isSteady heedless depth).nodes (.refl t) agree
  refine ⟨fun c d => alike, ?_, ?_, ?_⟩
  · intro inner outer filters unbound
    refine alike (Context.agree_of_scopes (fun n hn => ?_) fun _ => rfl)
    simp only [Context.lookupIn, Scope.lookup, Value.lookup, unbound n hn]
    rfl
  · intro inner outer value filters filters' same
    refine alike (Context.agree_of_scopes (fun n hn => ?_) fun _ => rfl)
    simp only [Context.lookupIn, Scope.lookup, same n hn]
  · intro dot inner outer value value' filters same
    refine alike (Context.agree_of_scopes (fun n hn => ?_) fun h => absurd h dot)
    simp only [Context.lookupIn, Scope.lookup, same n hn]

/-- A shelf that renders its own section with a title at hand. -/
def shelfPage : Template := [
  .sectionTag ⟨.name "shelf", ⟨1, 1, none⟩⟩ false [
    .variableTag ⟨.call (.name "uppercase") (.name "title") [], ⟨1, 11, none⟩⟩ true, .text " by ",
    .variableTag ⟨.name "author", ⟨1, 30, none⟩⟩ true] ""]

def shelfHost : Host Unit where
  call name _ _ o := (.error (.host (.raised "NameError" name)), o)
  script _ _ _ c := .content (c.push (.mapping [(.text "title", .text "b")]) []) fun r =>
    .done (.rendering r)

def shelfEngine : Engine Unit := ⟨shelfHost, .fail, ContentType.html.escape⟩

def shelfScope (more : List (Value × Value)) (filters : Filters) : Scope :=
  ⟨.mapping ([(.text "shelf", .deferred "shelf" []), (.text "author", .text "<A>")] ++ more),
    ("uppercase", Library.ofText .upper) :: filters⟩

def shelfContext : Context := ⟨[shelfScope [] []]⟩

/-- The same with a key and filters that the page does not mention. -/
def fullerShelfContext : Context :=
  ⟨[⟨.missing, [("year", Library.ofText .lower)]⟩,
    shelfScope [(.text "year", .int 1)] [("lowercase", Library.ofText .lower)]]⟩

theorem depends_on_mentioned_only_shelf :
    shelfEngine.host.Heedless shelfPage ∧ shelfContext.Agree shelfPage fullerShelfContext ∧
      shelfEngine.renderNodes 9 shelfPage shelfContext =
        shelfEngine.renderNodes 9 shelfPage fullerShelfContext ∧
      (shelfEngine.renderNodes 9 shelfPage fullerShelfContext (World.start ())).1 =
        .done "B by &lt;A&gt;" := by
  have heedless : shelfEngine.host.Heedless shelfPage :=
    fun name captured tag c d _ agree => .content (agree.push _ _) fun r => .done _
  have mentioned {x : Expr} (h : shelfPage.Mentions x) : x ∈ [.name "shelf",
      .call (.name "uppercase") (.name "title") [], .name "uppercase", .name "title",
      .name "author"] := by
    simpa [Template.Mentions, shelfPage, Template.heads, Template.tags, Node.tagsList, Node.tags,
      Node.head?, Expr.parts, Expr.partsList, or_assoc] using h
  have agree : shelfContext.Agree shelfPage fullerShelfContext := by
    constructor
    · intro n hn
      have names : n = "shelf" ∨ n = "uppercase" ∨ n = "title" ∨ n = "author" := by
        simpa using mentioned hn
      rcases names with rfl | rfl | rfl | rfl <;> rfl
    · intro dot
      exact absurd (mentioned dot) (by simp)
  have alike := (depends_on_mentioned_only shelfEngine 9 shelfPage heedless).1
  exact ⟨heedless, agree, alike _ _ agree, by cbv⟩

end Engine

end Stencil
