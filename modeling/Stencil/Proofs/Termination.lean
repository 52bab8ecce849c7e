-- Renderings that end. Of a finite value only finitely much can be rendered, even where functions
-- behind textual filters answer with further values; so a template ends for finite values, at some
-- depth and alike at every greater one. The proof is by induction on the nodes of the template, and
-- for each tag by induction on the values that the engine may meet there.
import Stencil.Proofs.CallOrder
import Stencil.Proofs.Depths

namespace Stencil

/-! ## Runs at every depth -/

namespace Run

variable {σ α β : Type} {P : α → Prop}

/-- From some depth on the runs end, and all of them alike. -/
def Terminates (f : Nat → Run σ α) : Prop :=
  ∀ w, ∃ depth x w', ∀ n, depth ≤ n → f n w = (Outcome.of x, w')

theorem Settles.terminates {r : Run σ α} (h : r.Settles) : Terminates fun _ => r := by
  intro w
  obtain ⟨x, w', ran⟩ := h w
  exact ⟨0, x, w', fun _ _ => ran⟩

theorem terminates_pure (a : α) : Terminates fun _ => (pure a : Run σ α) :=
  (settles_pure a).terminates

/-- The first depth does not count. -/
theorem Terminates.of_succ {f : Nat → Run σ α} (h : Terminates fun n => f (n + 1)) :
    Terminates f := by
  intro w
  obtain ⟨depth, x, w', ends⟩ := h w
  refine ⟨depth + 1, x, w', fun n hn => ?_⟩
  cases n with
  | zero => cases hn
  | succ n => exact ends n (Nat.le_of_succ_le_succ hn)

/-- What comes second has to terminate only for the values that the first runs may give. -/
theorem Terminates.bind_of {f : Nat → Run σ α} {g : Nat → α → Run σ β} (hf : Terminates f)
    (gives : ∀ n, Gives P (f n)) (hg : ∀ a, P a → Terminates fun n => g n a) :
    Terminates fun n => f n >>= g n := by
  intro w
  obtain ⟨depth, x, w₁, ends⟩ := hf w
  cases x with
  | error failure =>
    refine ⟨depth, .error failure, w₁, fun n hn => ?_⟩
    show (f n >>= g n) w = _
    rw [bind_apply, ends n hn]
    rfl
  | ok a =>
    have ha : P a := (gives depth).done (ends depth (Nat.le_refl depth))
    obtain ⟨depth', y, w₂, ends'⟩ := hg a ha w₁
    refine ⟨max depth depth', y, w₂, fun n hn => ?_⟩
    show (f n >>= g n) w = _
    rw [bind_apply, ends n (Nat.le_trans (Nat.le_max_left _ _) hn)]
    exact ends' n (Nat.le_trans (Nat.le_max_right _ _) hn)

theorem Terminates.bind {f : Nat → Run σ α} {g : Nat → α → Run σ β} (hf : Terminates f)
    (hg : ∀ a, Terminates fun n => g n a) : Terminates fun n => f n >>= g n :=
  hf.bind_of (fun n => gives_any (f n)) fun a _ => hg a

theorem Terminates.map {f : Nat → Run σ α} (hf : Terminates f) (g : α → β) :
    Terminates fun n => f n >>= fun a => pure (g a) := hf.bind fun a => terminates_pure (g a)

theorem Terminates.onFailure {f : Nat → Run σ α} {h : Failure → Run σ Failure} (hf : Terminates f)
    (hh : ∀ failure, (h failure).Settles) : Terminates fun n => (f n).onFailure h := by
  intro w
  obtain ⟨depth, x, w₁, ends⟩ := hf w
  cases x with
  | ok a =>
    refine ⟨depth, .ok a, w₁, fun n hn => ?_⟩
    simp only [Run.onFailure, ends n hn, Outcome.of]
  | error failure =>
    obtain ⟨y, w₂, ran⟩ := (hh failure).bind (fun e => settles_fail (α := α) e) w₁
    refine ⟨depth, y, w₂, fun n hn => ?_⟩
    simp only [Run.onFailure, ends n hn, Outcome.of, ran]

theorem Terminates.wrap {f : Nat → Run σ α} (hf : Terminates f) (cause : HostError → Cause) :
    Terminates fun n => (f n).wrap cause := by
  refine hf.onFailure fun failure => ?_
  cases failure <;> exact settles_pure _

/-! ## Going through items -/

theorem terminates_each {f : Nat → α → Run σ β} {l : List α}
    (h : ∀ a ∈ l, Terminates fun n => f n a) : Terminates fun n => each (f n) l := by
  induction l with
  | nil => exact terminates_pure []
  | cons a rest ih =>
    obtain ⟨first, others⟩ := List.forall_mem_cons.1 h
    exact first.bind fun b => (ih others).map (b :: ·)

theorem terminates_drain {f : Nat → Value → Run σ β} {items : List Value}
    (h : ∀ v ∈ items, Terminates fun n => f n v) (id : Nat) (ending : Option Failure)
    (bound : Nat) : Terminates fun n => drain (f n) id items ending bound := by
  induction bound with
  | zero => exact terminates_pure []
  | succ bound ih =>
    have next : Gives (Draw.From items ending)
        (Run.outside (·.pull id items ending) : Run σ Draw) := ends_pull id items ending
    refine (settles_outside _).terminates.bind_of (fun _ => next) fun next known => ?_
    cases known with
    | item mem => exact (h _ mem).bind fun b => ih.map (b :: ·)
    | raised ends => exact (settles_fail _).terminates
    | ended => exact terminates_pure []

theorem terminates_eachItem {f : Nat → Value → Run σ β} {items : Items}
    (h : ∀ v ∈ items.values, Terminates fun n => f n v) :
    Terminates fun n => eachItem (f n) items := by
  cases items with
  | fixed items => exact terminates_each h
  | stream id items ending => exact terminates_drain h id ending _

end Run

open Run (Terminates Gives)

variable {σ : Type}

/-! ## Finite values -/

namespace Value

/-- Renderables of the host, whose blocks may ask for anything. -/
def isScripted : Value → Bool
  | .deferred .. | .custom .. => true
  | _ => false

/-- The function of a textual filter with what it has captured, before and while it waits for its
tag. -/
def textual? : Value → Option (Body TextFunction × List Value)
  | .pending body captured _ | .filter (.textual body) captured => some (body, captured)
  | _ => none

/-- Values without an end to reach: there is no block of the host in them, and what their textual
filters answer to any texts is finite as well. A function that answers with a call of its own filter
is not behind a finite value, since it is asked again and again. -/
inductive Finite (host : Host σ) : Value → Prop
  | intro {v : Value} : v.isScripted = false → (∀ u ∈ v.parts, Finite host u) →
    (∀ body captured texts w u w', v.textual? = some (body, captured) →
      body.callTexts host captured texts w = (.done u, w') → Finite host u) → Finite host v

/-- What finite values are like at the outside. -/
def Tame (host : Host σ) (v : Value) : Prop :=
  v.isScripted = false ∧ ∀ body captured texts w u w', v.textual? = some (body, captured) →
    body.callTexts host captured texts w = (.done u, w') → u.Finite host

variable {host : Host σ} {v : Value}

theorem finite_iff : v.Finite host ↔ v.Throughout (Tame host) := by
  constructor
  · intro h
    induction h with
    | intro plain _ answers parts _ => exact ⟨⟨plain, answers⟩, parts⟩
  · intro h
    induction h with
    | intro tame _ parts => exact ⟨tame.1, parts, tame.2⟩

theorem tame_of_plain (plain : v.isScripted = false) (idle : v.textual? = none) : v.Tame host := by
  refine ⟨plain, fun body captured _ _ _ _ is => ?_⟩
  rw [idle] at is
  cases is

theorem ordinary_tame : Ordinary (Tame host) where
  missing := tame_of_plain rfl rfl
  null := tame_of_plain rfl rfl
  bool _ := tame_of_plain rfl rfl
  int _ := tame_of_plain rfl rfl
  text _ := tame_of_plain rfl rfl
  list _ := tame_of_plain rfl rfl
  mapping _ := tame_of_plain rfl rfl
  object _ _ := tame_of_plain rfl rfl
  eachItem _ _ _ _ := tame_of_plain rfl rfl

theorem keepsPending_tame : KeepsPending (Tame host) := fun _ _ _ h => ⟨rfl, h.2⟩

theorem finite_of_plain (plain : v.isScripted = false) (idle : v.textual? = none)
    (simple : v.parts = []) : v.Finite host :=
  finite_iff.2 (.simple (tame_of_plain plain idle) simple)

/-- What holds of a value if it holds of its parts, its items and the answers of its textual filter
holds of all finite values. -/
theorem Finite.induction {motive : Value → Prop}
    (step : ∀ v, v.Finite host → (∀ u ∈ v.parts, motive u) →
      (∀ items, v.items? = some items → ∀ u ∈ items.values, motive u) →
      (∀ body captured texts, v.textual? = some (body, captured) →
        Gives motive (body.callTexts host captured texts)) → motive v)
    (h : v.Finite host) : motive v := by
  -- The items of a range are no parts of it, but they have neither parts nor items themselves.
  have numbers (i : Int) : motive (.int i) :=
    step _ (finite_of_plain rfl rfl rfl) nofun nofun nofun
  induction h with
  | @intro v plain parts answers ihParts ihAnswers =>
    refine step v ⟨plain, parts, answers⟩ ihParts (fun items hi u hu => ?_) ?_
    · cases v with
      | list _ | tuple _ | stream _ _ _ _ =>
        cases hi
        exact ihParts u hu
      | collection _ _ _ =>
        cases hi
        exact ihParts u (List.mem_append_left _ hu)
      | range start stop apart =>
        cases hi
        obtain ⟨k, _, rfl⟩ := List.mem_map.1 hu
        exact numbers _
      | _ => cases hi
    · intro body captured texts is w
      rcases ran : body.callTexts host captured texts w with ⟨u | failure | _, w'⟩
      · exact ihAnswers body captured texts w u w' is ran
      · trivial
      · trivial

end Value

/-- All values and all filters in the context are finite. -/
def Context.Finite (host : Host σ) (c : Context) : Prop :=
  ∀ s ∈ c.scopes, s.value.Finite host ∧ ∀ f ∈ s.filters, f.2.Finite host

/-- The functions behind finite filters answer to finite values with finite ones, or they raise
something. -/
def Host.IsFinite (host : Host σ) : Prop :=
  ∀ f name captured arguments o v o', (Value.filter f captured).Finite host →
    f.host? = some name → (∀ a ∈ arguments, a.Finite host) →
    host.call name captured arguments o = (.ok v, o') → v.Finite host

section
variable {host : Host σ} {c : Context} {v : Value}

theorem Context.finite_iff : c.Finite host ↔ c.Throughout (Value.Tame host) := by
  simp only [Context.Finite, Context.Throughout, Value.finite_iff]

theorem Context.Finite.push (h : c.Finite host) (hv : v.Finite host) :
    (c.push v []).Finite host :=
  Context.finite_iff.2 ((Context.finite_iff.1 h).push (Value.finite_iff.1 hv))

theorem Value.finite_position {index : Nat} {last : Bool} {key : Value} (h : key.Finite host) :
    (Value.mapping (Value.position index last key)).Finite host :=
  Value.finite_iff.2 (Value.throughout_position Value.ordinary_tame (Value.finite_iff.1 h))

theorem Host.IsFinite.keeps (h : host.IsFinite) : host.Keeps (Value.Tame host) := by
  simpa only [Host.IsFinite, Host.Keeps, Value.finite_iff] using h

/-- The functions of the library on texts answer with texts. -/
theorem TextFunction.finite_callTexts (f : TextFunction) (captured : List Value)
    (texts : List Passage) :
    Gives (·.Finite host) ((Body.library f).callTexts host captured texts) := by
  refine Run.gives_wrap (Run.ends_ofExcept (fun v hv => ?_) fun _ _ => trivial)
  exact Value.finite_iff.2 (throughout_call Value.ordinary_tame
    (fun _ => Value.tame_of_plain rfl rfl) hv)

/-- Filters that run nothing of the host are finite. -/
theorem Filter.tame_of_library {f : Filter} (own : f.host? = none) :
    (Value.filter f []).Tame host := by
  refine ⟨rfl, fun body captured texts w u w' is answer => ?_⟩
  cases f with
  | textual body =>
    cases is
    cases body with
    | library f => exact (f.finite_callTexts _ texts).done answer
    | host name => cases own
  | _ => cases is

/-- The standard library is finite, whatever the host. -/
theorem Library.finite_standard : ∀ f ∈ standard, f.2.Finite host := by
  have tame : ∀ f ∈ standard, f.2.Throughout (Value.Tame host) :=
    throughout_standard Value.ordinary_tame fun _ own => Filter.tame_of_library own
  exact fun f hf => Value.finite_iff.2 (tame f hf)

end

/-! ## What does not depend on the depth -/

theorem Evaluator.settles_evaluate (ev : Evaluator σ) (c : Context) (x : Expr) :
    (ev.evaluate c x).Settles := by
  intro w
  obtain ⟨_, y, w', _, ran⟩ := regular x w
  exact ⟨y, w', ran⟩

/-- The values of expressions are finite in a finite context. -/
theorem Evaluator.finite_evaluate {ev : Evaluator σ} {c : Context} (host : ev.host.IsFinite)
    (hc : c.Finite ev.host) (x : Expr) : Gives (·.Finite ev.host) (ev.evaluate c x) := by
  have tame := gives_evaluate Value.ordinary_tame Value.keepsPending_tame host.keeps
    (Context.finite_iff.1 hc) x
  simpa only [Value.finite_iff] using tame

theorem Run.Settles.wrap {α : Type} {r : Run σ α} (h : r.Settles) (cause : HostError → Cause) :
    (r.wrap cause).Settles := by
  intro w
  obtain ⟨x, w', ran⟩ := h w
  rw [Run.wrap_apply, ran]
  rcases x with (_ | _) | a
  · exact ⟨.error _, w', rfl⟩
  · exact ⟨.error _, w', rfl⟩
  · exact ⟨.ok a, w', rfl⟩

theorem Run.settles_ofExcept {α : Type} (x : Except HostError α) :
    (ofExcept x : Run σ α).Settles := by
  cases x with
  | ok a => exact settles_pure a
  | error failure => exact settles_fail _

theorem Body.settles_callTexts (host : Host σ) (body : Body TextFunction) (captured : List Value)
    (texts : List Passage) : (body.callTexts host captured texts).Settles := by
  cases body with
  | library f => exact (Run.settles_ofExcept _).wrap _
  | host name => exact (host.settles_run _ _ _).wrap _

namespace Engine

variable {e : Engine σ} {tag : Tag} {c : Context} {v : Value} {P : Value → Prop}

theorem settles_resolve (tag : Tag) (c : Context) : (e.resolve tag c).Settles := by
  refine (Evaluator.settles_evaluate _ c _).bind fun v => ?_
  split
  · exact Run.settles_fail _
  · exact Run.settles_pure v

theorem settles_move (tag : Tag) (state : TagState) : (move tag state : Run σ Unit).Settles :=
  fun _ => ⟨.ok (), _, rfl⟩

theorem settles_leaf (v : Value) : (leaf v : Run σ Rendering).Settles := by
  unfold leaf
  split
  · exact Run.settles_pure _
  · exact Run.settles_pure _
  · exact Run.settles_pure _
  · exact Run.settles_pure _
  · cases v.markup? with
    | some s => exact Run.settles_pure _
    | none => exact (Run.settles_ofExcept _).bind fun s => Run.settles_pure _

/-- A tag terminates if the rendering of its value does. -/
theorem terminates_visit {α : Type} {head : Head} {form : Form} {f : Nat → Tag → Value → Run σ α}
    (hx : Gives P ((⟨e.host, e.policy⟩ : Evaluator σ).evaluate c head.expression))
    (h : ∀ tag v, tag.form = form → P v → Terminates fun n => f n tag v) :
    Terminates fun n => e.visit head form c (f n) := by
  have created : (create head form : Run σ Tag).Settles := fun _ => ⟨.ok _, _, rfl⟩
  refine created.terminates.bind_of (fun _ => gives_create head form) fun tag htag => ?_
  obtain ⟨rfl, hform⟩ := htag
  refine Terminates.onFailure ?_ fun failure => ?_
  · refine (settles_move tag _).terminates.bind fun _ => ?_
    refine (settles_resolve tag c).terminates.bind_of (fun _ => gives_resolve tag hx) fun v hv => ?_
    refine (settles_move tag _).terminates.bind fun _ => ?_
    refine (settles_move tag _).terminates.bind fun _ => ?_
    refine (h tag v hform hv).bind fun answer => ?_
    exact (settles_move tag _).terminates.map fun _ => answer
  · cases failure with
    | fault f => exact (settles_move tag _).bind fun _ => Run.settles_pure _
    | host error => exact Run.settles_pure _

/-! ## Values -/

/-- The content of the tag terminates in every finite context. -/
def ContentHalts (e : Engine σ) (tag : Tag) : Prop :=
  ∀ c, c.Finite e.host → Terminates fun n => e.renderNodes n tag.children c

/-- Whatever the engine does with the value for the tag terminates. -/
structure Halts (e : Engine σ) (tag : Tag) (v : Value) : Prop where
  value : ∀ c, c.Finite e.host → Terminates fun n => e.renderValue n tag v c
  variableTag : ∀ c, c.Finite e.host → Terminates fun n => e.renderVariable n tag v c
  item : ∀ c, c.Finite e.host → Terminates fun n => e.renderItem n tag v c
  sectionTag : ∀ c, c.Finite e.host → Terminates fun n => e.renderSection n tag v c

theorem ContentHalts.handled (h : e.ContentHalts tag) (hc : c.Finite e.host) :
    Terminates fun n => (e.handlersAt n tag).content c := by
  by_cases is : tag.isSection = true
  · simp only [handlersAt, handlers, contentOf, if_pos is]
    exact (h c hc).map _
  · simp only [handlersAt, handlers, contentOf, if_neg is]
    exact Run.terminates_pure _

theorem Halts.handled (h : e.Halts tag v) (hc : c.Finite e.host) :
    Terminates fun n => (e.handlersAt n tag).value v c := by
  by_cases is : tag.isSection = true
  · simp only [handlersAt, handlers, valueFor, if_pos is]
    exact (h.sectionTag c hc).map _
  · simp only [handlersAt, handlers, valueFor, if_neg is]
    exact h.value c hc

theorem terminates_finish {answer : Answer} (hc : c.Finite e.host)
    (h : ∀ u, answer = .value u → e.Halts tag u) :
    Terminates fun n => finish (e.renderValue n tag · c) answer := by
  cases answer with
  | rendering r => exact Run.terminates_pure r
  | value u => exact (h u rfl).value c hc

/-- A value that is rendered itself asks for its parts and for what its textual filter answers. -/
theorem terminates_renderable (content : e.ContentHalts tag) (finite : v.Finite e.host)
    (is : v.isRenderable = true) (parts : ∀ u ∈ v.parts, e.Halts tag u)
    (answers : ∀ body captured texts, v.textual? = some (body, captured) →
      Gives (e.Halts tag) (body.callTexts e.host captured texts)) (hc : c.Finite e.host) :
    Terminates fun n => e.renderValue (n + 1) tag v c := by
  obtain ⟨plain, finiteParts, _⟩ := finite
  cases v with
  | eager text safe =>
    simp only [renderValue]
    exact Run.terminates_pure _
  | pending body captured arguments =>
    simp only [renderValue]
    refine Terminates.wrap ?_ _
    have texts : Terminates fun n => Run.each ((e.handlersAt n tag).value · c) arguments :=
      Run.terminates_each fun a ha => (parts a (List.mem_append_right _ ha)).handled hc
    refine texts.bind fun rs => ?_
    have called := (body.settles_callTexts e.host captured (rs.map (·.text))).terminates
    refine called.bind_of (fun _ => answers body captured _ rfl) fun u hu => ?_
    refine terminates_finish hc fun u' is => ?_
    cases u with
    | text s => cases is
    | _ =>
      cases is
      exact hu
  | eachItem item index last key =>
    have finiteItem := finiteParts item List.mem_cons_self
    have finiteKey := finiteParts key (List.mem_cons_of_mem _ List.mem_cons_self)
    simp only [renderValue]
    refine Terminates.wrap ?_ _
    by_cases isSection : tag.isSection = true
    · simp only [if_pos isSection]
      exact content.handled ((hc.push (Value.finite_position finiteKey)).push finiteItem)
    · simp only [if_neg isSection]
      exact (parts item List.mem_cons_self).value c hc
  | deferred name captured | custom label name captured => cases plain
  | _ => cases is

theorem terminates_value (content : e.ContentHalts tag) (finite : v.Finite e.host)
    (parts : ∀ u ∈ v.parts, e.Halts tag u)
    (items : ∀ items, v.items? = some items → ∀ u ∈ items.values, e.Halts tag u)
    (answers : ∀ body captured texts, v.textual? = some (body, captured) →
      Gives (e.Halts tag) (body.callTexts e.host captured texts)) (hc : c.Finite e.host) :
    Terminates fun n => e.renderValue n tag v c := by
  refine Terminates.of_succ ?_
  rcases hi : v.joinedItems? with _ | found
  · by_cases is : v.isRenderable = true
    · exact terminates_renderable content finite is parts answers hc
    · have plain : v.isRenderable = false := by simpa using is
      simp only [renderValue_leaf e hi plain]
      exact (settles_leaf v).terminates
  · simp only [renderValue_of_items e hi]
    have each := Run.terminates_eachItem fun u hu =>
      (items found (Value.items?_of_joined hi) u hu).value c hc
    exact each.map joined

/-- Whatever the engine does with a finite value terminates, if the content of the tag does. -/
theorem ContentHalts.halts (content : e.ContentHalts tag) (finite : v.Finite e.host) :
    e.Halts tag v := by
  refine finite.induction fun v finite parts items answers => ?_
  have value (c : Context) (hc : c.Finite e.host) := terminates_value content finite parts items
    answers hc
  have item (c : Context) (hc : c.Finite e.host) : Terminates fun n => e.renderItem n tag v c := by
    refine Terminates.of_succ ?_
    simp only [renderItem]
    split
    · exact (value c hc).map _
    · exact (content _ (hc.push finite)).map _
  refine ⟨value, fun c hc => ?_, item, fun c hc => ?_⟩
  · refine Terminates.of_succ ?_
    simp only [renderVariable]
    cases hi : v.items? with
    | some found =>
      have each := Run.terminates_eachItem fun u hu => (items found hi u hu).variableTag c hc
      exact each.map String.join
    | none => exact (value c hc).map _
  · refine Terminates.of_succ ?_
    simp only [renderSection]
    split
    · refine (Run.settles_ofExcept _).terminates.bind fun truth => ?_
      split
      · exact Run.terminates_pure _
      · exact (content c hc).map _
    · cases hi : v.items? with
      | some found =>
        have each := Run.terminates_eachItem fun u hu => (items found hi u hu).item c hc
        exact each.map _
      | none =>
        refine (Run.settles_ofExcept _).terminates.bind fun shown => ?_
        split
        · exact item c hc
        · exact Run.terminates_pure _

/-! ## Templates -/

theorem terminates_renderNodes {t : Template}
    (h : ∀ node ∈ t, Terminates fun n => e.renderNode n c node) :
    Terminates fun n => e.renderNodes n t c := by
  refine Terminates.of_succ ?_
  simp only [renderNodes_succ]
  exact (Run.terminates_each h).map String.join

theorem ContentHalts.of_variable (h : tag.children = []) : e.ContentHalts tag := by
  intro c _
  rw [h]
  exact terminates_renderNodes nofun

mutual

/-- A node terminates in every finite context. -/
theorem terminates_renderNode (host : e.host.IsFinite) (node : Node) (c : Context)
    (hc : c.Finite e.host) : Terminates fun n => e.renderNode n c node := by
  have value (x : Expr) : Gives (·.Finite e.host) (e.evaluator.evaluate c x) :=
    Evaluator.finite_evaluate host hc x
  match node with
  | .text s => exact Run.terminates_pure s
  | .variableTag head escaped =>
    refine terminates_visit (value head.expression) fun tag v form finite => ?_
    simp only [renderTag, form]
    have content : e.ContentHalts tag := .of_variable (by simp only [Tag.children, form])
    exact (content.halts finite).variableTag c hc
  | .sectionTag head inverted children inner =>
    refine terminates_visit (value head.expression) fun tag v form finite => ?_
    simp only [renderTag, form]
    have content : e.ContentHalts tag := by
      intro d hd
      simp only [Tag.children, form]
      exact terminates_renderNodes (terminates_renderEach host children d hd)
    exact ((content.halts finite).sectionTag c hc).map _

theorem terminates_renderEach (host : e.host.IsFinite) (t : List Node) (c : Context)
    (hc : c.Finite e.host) : ∀ node ∈ t, Terminates fun n => e.renderNode n c node := by
  match t with
  | [] => exact nofun
  | node :: rest =>
    exact List.forall_mem_cons.2
      ⟨terminates_renderNode host node c hc, terminates_renderEach host rest c hc⟩

end

end Engine

end Stencil
