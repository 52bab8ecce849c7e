-- Properties that hold throughout a value: of the value and of every value inside it. Looking a
-- key up, going through items and evaluating an expression only find what was there, apart from a
-- few plain values, so such a property holds throughout whatever a template can reach.
import Stencil.Press
import Stencil.Proofs.Enclosures

namespace Stencil

namespace Value

/-- The values that a value is made of. -/
def parts : Value → List Value
  | .list items | .tuple items | .stream _ _ items _ => items
  | .mapping entries => entries.map Prod.fst ++ entries.map Prod.snd
  | .object _ attributes => attributes.map Prod.snd
  | .collection _ items attributes => items ++ attributes.map Prod.snd
  | .deferred _ captured | .custom _ _ captured | .filter _ captured | .function _ _ captured =>
    captured
  | .pending _ captured arguments => captured ++ arguments
  | .eachItem item _ _ key => [item, key]
  | _ => []

/-- The property holds of the value and of every value inside it. -/
inductive Throughout (p : Value → Prop) : Value → Prop
  | intro {v : Value} : p v → (∀ u ∈ v.parts, Throughout p u) → Throughout p v

/-- What look-ups and the library make up has the property: plain values, and sequences, mappings
and items of whatever has it. -/
structure Ordinary (p : Value → Prop) : Prop where
  missing : p .missing
  null : p .null
  bool : ∀ b, p (.bool b)
  int : ∀ i, p (.int i)
  text : ∀ s, p (.text s)
  list : ∀ items, p (.list items)
  mapping : ∀ entries, p (.mapping entries)
  object : ∀ traits attributes, p (.object traits attributes)
  eachItem : ∀ item index last key, p (.eachItem item index last key)

/-- A textual filter that has the property still has it while it waits for its tag. -/
def KeepsPending (p : Value → Prop) : Prop :=
  ∀ body captured arguments, p (.filter (.textual body) captured) →
    p (.pending body captured arguments)

section
variable {p q : Value → Prop} {v u : Value}

namespace Throughout

theorem self (h : v.Throughout p) : p v := by
  cases h with
  | intro hv _ => exact hv

theorem part (h : v.Throughout p) (hu : u ∈ v.parts) : u.Throughout p := by
  cases h with
  | intro _ hp => exact hp u hu

theorem simple (h : p v) (hv : v.parts = []) : v.Throughout p := by
  refine ⟨h, fun u hu => ?_⟩
  rw [hv] at hu
  cases hu

theorem mono (h : v.Throughout p) (hpq : ∀ u, p u → q u) : v.Throughout q := by
  induction h with
  | intro hv _ ih => exact ⟨hpq _ hv, ih⟩

theorem list (hp : Ordinary p) {items : List Value} (h : ∀ u ∈ items, u.Throughout p) :
    (Value.list items).Throughout p := ⟨hp.list items, h⟩

theorem mapping (hp : Ordinary p) {entries : List (Value × Value)}
    (h : ∀ e ∈ entries, e.1.Throughout p ∧ e.2.Throughout p) :
    (Value.mapping entries).Throughout p := by
  refine ⟨hp.mapping entries, fun u hu => ?_⟩
  simp only [parts, List.mem_append, List.mem_map] at hu
  rcases hu with ⟨e, he, rfl⟩ | ⟨e, he, rfl⟩
  · exact (h e he).1
  · exact (h e he).2

theorem eachItem (hp : Ordinary p) {item key : Value} {index : Nat} {last : Bool}
    (hi : item.Throughout p) (hk : key.Throughout p) :
    (Value.eachItem item index last key).Throughout p := by
  refine ⟨hp.eachItem item index last key, fun u hu => ?_⟩
  simp only [parts, List.mem_cons, List.not_mem_nil, or_false] at hu
  rcases hu with rfl | rfl
  · exact hi
  · exact hk

theorem entry {entries : List (Value × Value)} (h : (Value.mapping entries).Throughout p)
    {e : Value × Value} (he : e ∈ entries) : e.1.Throughout p ∧ e.2.Throughout p := by
  constructor
  · exact h.part (List.mem_append_left _ (List.mem_map_of_mem he))
  · exact h.part (List.mem_append_right _ (List.mem_map_of_mem he))

end Throughout

/-! ## Sequences -/

theorem Throughout.rangeItems (hp : Ordinary p) {start stop step : Int}
    (h : u ∈ Value.rangeItems start stop step) : u.Throughout p := by
  simp only [Value.rangeItems, List.mem_map] at h
  obtain ⟨n, _, rfl⟩ := h
  exact .simple (hp.int _) rfl

/-- The items of a sequence have the property that holds throughout the sequence. -/
theorem Throughout.items (hp : Ordinary p) (h : v.Throughout p) {items : Items}
    (hi : v.items? = some items) (hu : u ∈ items.values) : u.Throughout p := by
  cases v with
  | list _ | tuple _ | stream _ _ _ _ =>
    cases hi
    exact h.part hu
  | collection _ l _ =>
    cases hi
    exact h.part (List.mem_append_left _ hu)
  | range start stop step =>
    cases hi
    exact .rangeItems hp hu
  | _ => cases hi

theorem throughout_position (hp : Ordinary p) {index : Nat} {last : Bool} {key : Value}
    (hk : key.Throughout p) : (Value.mapping (position index last key)).Throughout p := by
  have plain : ∀ s v, v.parts = [] → p v → (Value.text s).Throughout p ∧ v.Throughout p :=
    fun s v hv h => ⟨.simple (hp.text s) rfl, .simple h hv⟩
  refine .mapping hp fun e he => ?_
  simp only [position, List.mem_append, List.mem_cons, List.not_mem_nil, or_false] at he
  rcases he with (rfl | rfl | rfl | rfl | rfl) | he
  · exact plain _ _ rfl (hp.int _)
  · exact plain _ _ rfl (hp.int _)
  · exact plain _ _ rfl (hp.bool _)
  · exact plain _ _ rfl (hp.bool _)
  · exact plain _ _ rfl (hp.bool _)
  · split at he
    · cases he
    · obtain rfl := List.mem_singleton.1 he
      exact ⟨.simple (hp.text _) rfl, hk⟩

/-! ## Keys -/

theorem mem_of_lookup {name : String} {l : List (String × Value)} (h : l.lookup name = some u) :
    (name, u) ∈ l := by
  obtain ⟨before, after, rfl, _⟩ := List.lookup_eq_some_iff.1 h
  simp

theorem throughout_attributeOf (hp : Ordinary p) {attributes : List (String × Value)} {key : String}
    (h : ∀ a ∈ attributes, a.2.Throughout p) : (attributeOf attributes key).Throughout p := by
  unfold attributeOf
  split
  · exact .simple hp.missing rfl
  · cases hl : attributes.lookup key with
    | none => exact .simple hp.missing rfl
    | some u => exact h _ (mem_of_lookup hl)

theorem throughout_ownAttribute (hp : Ordinary p) {raising : List (String × HostError)}
    {attributes : List (String × Value)} {key : String}
    (h : ∀ a ∈ attributes, a.2.Throughout p)
    (hl : ownAttribute raising attributes key = .ok u) : u.Throughout p := by
  unfold ownAttribute at hl
  split at hl
  · cases hl
  · exact Except.ok.inj hl ▸ throughout_attributeOf hp h

theorem getD_byNumber {byNumber : Int → Option Value} {i : Int} {d : Value}
    (h : (byNumber i).getD d = u) : (∃ i, byNumber i = some u) ∨ u = d := by
  cases found : byNumber i with
  | none => exact .inr (by simpa [found] using h.symm)
  | some x => exact .inl ⟨i, by simpa [found] using h⟩

/-- A name of an indexed sequence gives an item, the null in place of one, or the count. -/
theorem of_endKey? {size : Nat} {byNumber : Int → Option Value} {key : String}
    (h : endKey? size byNumber key = some u) :
    (∃ i, byNumber i = some u) ∨ u = .null ∨ u = .int size := by
  unfold endKey? at h
  split at h
  · exact .inr (.inr (Option.some.inj h).symm)
  split at h
  · exact (getD_byNumber (Option.some.inj h)).imp_right .inl
  split at h
  · exact (getD_byNumber (Option.some.inj h)).imp_right .inl
  · cases h

/-- A key of an indexed sequence gives an item, the null in place of one, the count, or what the
sequence gives for other keys. -/
theorem of_ofSequence {size : Nat} {byNumber : Int → Option Value} {other : Except HostError Value}
    {key : String} (h : ofSequence size byNumber other key = .ok u) :
    (∃ i, byNumber i = some u) ∨ u = .missing ∨ u = .null ∨ u = .int size ∨ other = .ok u := by
  unfold ofSequence at h
  split at h
  · exact (getD_byNumber (Except.ok.inj h)).imp_right .inl
  · cases h
  · cases h
  · split at h
    · rename_i v named
      split at h
      · obtain rfl := Except.ok.inj h
        rcases of_endKey? named with item | null | count
        · exact .inl item
        · exact .inr (.inr (.inl null))
        · exact .inr (.inr (.inr (.inl count)))
      · cases h
    · exact .inr (.inr (.inr (.inr h)))

theorem mem_of_item? {items : List Value} {i : Int} (h : item? items i = some u) : u ∈ items := by
  unfold item? at h
  split at h
  · exact List.mem_of_getElem? h
  · simp only at h
    split at h
    · exact List.mem_of_getElem? h
    · cases h

theorem throughout_ofSequence (hp : Ordinary p) {size : Nat} {byNumber : Int → Option Value}
    {other : Except HostError Value} {key : String}
    (hn : ∀ i x, byNumber i = some x → x.Throughout p)
    (ho : ∀ x, other = .ok x → x.Throughout p) (h : ofSequence size byNumber other key = .ok u) :
    u.Throughout p := by
  rcases of_ofSequence h with ⟨i, hi⟩ | rfl | rfl | rfl | found
  · exact hn i u hi
  · exact .simple hp.missing rfl
  · exact .simple hp.null rfl
  · exact .simple (hp.int _) rfl
  · exact ho u found

theorem throughout_ofDay (hp : Ordinary p) {d : Day} : ∀ a ∈ ofDay d, a.2.Throughout p := by
  intro a ha
  simp only [ofDay, List.mem_cons, List.not_mem_nil, or_false] at ha
  rcases ha with rfl | rfl | rfl <;> exact .simple (hp.int _) rfl

theorem throughout_ofMoment (hp : Ordinary p) {m : Moment} :
    ∀ a ∈ ofMoment m, a.2.Throughout p := by
  intro a ha
  simp only [ofMoment, List.mem_append, List.mem_cons, List.not_mem_nil, or_false] at ha
  rcases ha with ha | rfl | rfl | rfl | rfl | rfl | rfl
  · exact throughout_ofDay hp a ha
  · exact .simple (hp.int _) rfl
  · exact .simple (hp.int _) rfl
  · exact .simple (hp.int _) rfl
  · exact .simple (hp.int _) rfl
  · exact .simple (hp.int _) rfl
  · simp only
    split
    · exact .simple hp.null rfl
    · exact .simple (hp.object _ _) rfl

/-- What holds throughout a value holds throughout what it has under a key. -/
theorem Throughout.lookup (hp : Ordinary p) (h : v.Throughout p) {key : String}
    (hl : v.lookup key = .ok u) : u.Throughout p := by
  have missing : (Value.missing).Throughout p := .simple hp.missing rfl
  have other : ∀ x, Except.ok (ε := HostError) Value.missing = .ok x → x.Throughout p :=
    fun x hx => Except.ok.inj hx ▸ missing
  cases v with
  | mapping entries =>
    obtain rfl := Except.ok.inj hl
    cases hf : find? key entries with
    | none => exact missing
    | some w =>
      obtain ⟨e, he, rfl⟩ := Option.map_eq_some_iff.1 hf
      exact (h.entry (List.mem_of_find?_eq_some he)).2
  | list items =>
    exact throughout_ofSequence hp (fun i x hx => h.part (mem_of_item? hx)) other hl
  | tuple items =>
    exact throughout_ofSequence hp (fun i x hx => h.part (mem_of_item? hx)) other hl
  | range start stop step =>
    refine throughout_ofSequence hp (fun i x hx => ?_) other hl
    simp only [rangeItem?, Option.ite_none_right_eq_some] at hx
    obtain rfl := Option.some.inj hx.2
    exact .simple (hp.int _) rfl
  | collection traits items attributes =>
    have own : ∀ x, ownAttribute traits.raising attributes key = .ok x → x.Throughout p :=
      fun x => throughout_ownAttribute hp fun a ha =>
        h.part (List.mem_append_right _ (List.mem_map_of_mem ha))
    simp only [Value.lookup] at hl
    split at hl
    · refine throughout_ofSequence hp (fun i x hx => ?_) own hl
      exact h.part (List.mem_append_left _ (mem_of_item? hx))
    · exact own u hl
  | object traits attributes =>
    exact throughout_ownAttribute hp (fun a ha => h.part (List.mem_map_of_mem ha)) hl
  | day d =>
    obtain rfl := Except.ok.inj hl
    exact throughout_attributeOf hp (throughout_ofDay hp)
  | moment m =>
    obtain rfl := Except.ok.inj hl
    exact throughout_attributeOf hp (throughout_ofMoment hp)
  | eager content safe =>
    obtain rfl := Except.ok.inj hl
    refine throughout_attributeOf hp fun a ha => ?_
    simp only [List.mem_cons, List.not_mem_nil, or_false] at ha
    rcases ha with rfl | rfl
    · exact .simple (hp.text _) rfl
    · exact .simple (hp.bool _) rfl
  | eachItem item index last number =>
    obtain rfl := Except.ok.inj hl
    refine throughout_attributeOf hp fun a ha => ?_
    simp only [List.mem_cons, List.not_mem_nil, or_false] at ha
    rcases ha with rfl | rfl
    · exact h.part (by simp [parts])
    · exact throughout_position hp (h.part (by simp [parts]))
  | _ =>
    obtain rfl := Except.ok.inj hl
    exact missing

theorem Ordinary.encloses (hp : Ordinary p) : Encloses (·.Throughout p) fun _ => True where
  missing := .simple hp.missing rfl
  null := .simple hp.null rfl
  lookup h _ found := h.lookup hp found
  item h items hu := h.items hp items hu

end

end Value

/-! ## Contexts -/

/-- The property holds throughout the values and the filters of all scopes. -/
def Context.Throughout (p : Value → Prop) (c : Context) : Prop :=
  ∀ s ∈ c.scopes, s.value.Throughout p ∧ ∀ f ∈ s.filters, f.2.Throughout p

section
variable {p : Value → Prop} {c : Context} {v u : Value}

namespace Context.Throughout

theorem push (h : c.Throughout p) (hv : v.Throughout p) : (c.push v []).Throughout p :=
  Context.Holds.push h hv

theorem withFilters (hp : Value.Ordinary p) (h : c.Throughout p) {filters : List (String × Value)}
    (hf : ∀ f ∈ filters, f.2.Throughout p) : (c.withFilters filters).Throughout p := by
  intro s hs
  rcases List.mem_cons.1 hs with rfl | hs
  · exact ⟨.simple hp.missing rfl, hf⟩
  · exact h s hs

theorem top (hp : Value.Ordinary p) (h : c.Throughout p) : c.top.Throughout p :=
  Context.Holds.top hp.encloses h

theorem lookup (hp : Value.Ordinary p) (h : c.Throughout p) {name : String}
    (hl : c.lookup name = .ok u) : u.Throughout p :=
  Context.Holds.lookup hp.encloses h trivial hl

theorem ofPress (hp : Value.Ordinary p) {press : Press}
    (hf : ∀ f ∈ press.filters, f.2.Throughout p) {data : Value} {named : List (Value × Value)}
    (hd : data.Throughout p) (hn : (Value.mapping named).Throughout p) :
    (press.context data named).Throughout p := by
  have base : (press.rootContext []).Throughout p := by
    have empty : Context.empty.Throughout p := fun s hs => nomatch hs
    simp only [Press.rootContext, List.isEmpty_nil, if_true, Context.root]
    split
    · exact empty
    · exact empty.withFilters hp hf
  have withNamed {c : Context} (hc : c.Throughout p) :
      (if named.isEmpty then c else c.push (.mapping named) []).Throughout p := by
    split
    · exact hc
    · exact hc.push hn
  cases data with
  | null => exact withNamed base
  | _ => exact withNamed (base.push hd)

end Context.Throughout

/-! ## Filters -/

/-- The function of the host behind a filter. -/
def Filter.host? : Filter → Option String
  | .generic (.host name) | .textual (.host name) | .variadic name | .custom _ name => some name
  | .generic (.library _) | .textual (.library _) => none

/-- The functions behind the filters that have the property keep it, from their arguments to what
they give. -/
def Host.Keeps {σ : Type} (host : Host σ) (p : Value → Prop) : Prop :=
  ∀ f name captured arguments o v o', (Value.filter f captured).Throughout p →
    f.host? = some name → (∀ a ∈ arguments, a.Throughout p) →
    host.call name captured arguments o = (.ok v, o') → v.Throughout p

variable {σ : Type} {host : Host σ}

open Run (Gives)

theorem Host.Keeps.run (hh : host.Keeps p) {f : Filter} {name : String}
    {captured arguments : List Value} (hf : (Value.filter f captured).Throughout p)
    (hn : f.host? = some name) (ha : ∀ a ∈ arguments, a.Throughout p) :
    Gives (·.Throughout p) (host.run name captured arguments) := by
  intro w
  unfold Host.run
  rcases hc : host.call name captured arguments w.outside with ⟨v | e, o'⟩
  · trivial
  · exact hh f name captured arguments _ _ o' hf hn ha hc

theorem Value.throughout_ofPassage (hp : Ordinary p) (markup : ∀ s, p (.markup s))
    (passage : Passage) : (ofPassage passage).Throughout p := by
  unfold ofPassage
  split
  · exact .simple (markup _) rfl
  · exact .simple (hp.text _) rfl

/-- The functions of the library on texts answer with texts. -/
theorem TextFunction.throughout_call (hp : Value.Ordinary p) (markup : ∀ s, p (.markup s))
    {f : TextFunction} {texts : List Passage} (h : f.call texts = .ok v) : v.Throughout p := by
  have plain (s : String) : (Value.text s).Throughout p := .simple (hp.text s) rfl
  unfold call at h
  split at h
  · cases h
    cases f with
    | escapeMarkup => exact .simple (markup _) rfl
    | escapePercent =>
      simp only [apply]
      split
      · exact Value.throughout_ofPassage hp markup _
      · exact plain _
    | _ => exact plain _
  · cases h

/-- What holds of filters that run nothing of the host holds throughout the standard library. -/
theorem Library.throughout_standard (hp : Value.Ordinary p)
    (own : ∀ f, f.host? = none → p (.filter f [])) : ∀ f ∈ standard, f.2.Throughout p := by
  have filter : ∀ f, f.host? = none → (Value.filter f []).Throughout p :=
    fun f h => .simple (own f h) rfl
  have space : ∀ f, (escapes f).Throughout p := by
    intro f
    refine .mapping hp fun e he => ?_
    obtain rfl := List.mem_singleton.1 he
    exact ⟨.simple (hp.text _) rfl, filter _ rfl⟩
  intro f hf
  simp only [standard, List.mem_cons, List.not_mem_nil, or_false] at hf
  rcases hf with rfl | rfl | rfl | rfl | rfl | rfl | rfl | rfl | rfl
  · exact filter _ rfl
  · exact filter _ rfl
  · exact filter _ rfl
  · exact filter _ rfl
  · exact filter _ rfl
  · exact filter _ rfl
  · exact space _
  · exact space _
  · exact space _

theorem Library.throughout_numbered (hp : Value.Ordinary p) {entries : List (Value × Value)}
    (h : ∀ e ∈ entries, e.1.Throughout p ∧ e.2.Throughout p) (index : Nat) :
    ∀ v ∈ numbered index entries, v.Throughout p := by
  induction entries generalizing index with
  | nil => simp [numbered]
  | cons e rest ih =>
    obtain ⟨key, item⟩ := e
    intro v hv
    obtain ⟨hk, hi⟩ := h _ List.mem_cons_self
    rcases List.mem_cons.1 hv with rfl | hv
    · exact .eachItem hp hi hk
    · exact ih (fun e he => h e (List.mem_cons_of_mem _ he)) _ v hv

theorem Library.gives_each (hp : Value.Ordinary p) (hv : v.Throughout p) :
    Gives (fun items => ∀ u ∈ items, u.Throughout p) (each v : Run σ (List Value)) := by
  have sequence : ∀ items, v.items? = some items → Gives (fun items => ∀ u ∈ items, u.Throughout p)
      (do return numbered 0 ((← Run.eachItem pure items).map fun item => (.null, item)) :
        Run σ (List Value)) := by
    intro items hi
    refine (Run.gives_eachItem (P := (·.Throughout p)) fun u hu => ?_).bind fun us hus => ?_
    · exact Run.ends_pure (hv.items hp hi hu)
    · refine Run.ends_pure (throughout_numbered hp (fun e he => ?_) 0)
      obtain ⟨u, hu, rfl⟩ := List.mem_map.1 he
      exact ⟨.simple hp.null rfl, hus u hu⟩
  unfold each
  split
  · exact Run.ends_pure (by simp)
  · exact Run.ends_pure (by simp)
  · exact Run.ends_pure (throughout_numbered hp (fun e he => hv.entry he) 0)
  · cases hi : v.items? with
    | some items => exact sequence items hi
    | none => exact Run.ends_fail trivial

theorem ValueFunction.gives_call (hp : Value.Ordinary p) (f : ValueFunction)
    {arguments : List Value} (ha : ∀ a ∈ arguments, a.Throughout p) :
    Gives (·.Throughout p) (f.call arguments : Run σ Value) := by
  unfold call
  split
  · unfold apply
    split
    · cases f with
      | isEmpty => exact Run.ends_pure (.simple (hp.bool _) rfl)
      | isBlank => exact Run.ends_pure (.simple (hp.bool _) rfl)
      | each =>
        refine (Library.gives_each hp (ha _ List.mem_cons_self)).bind fun items hi => ?_
        exact Run.ends_pure (.list hp hi)
    · exact Run.ends_fail trivial
  · exact Run.ends_fail trivial
  · exact Run.ends_fail trivial

theorem Filter.gives_apply (hp : Value.Ordinary p) (hq : Value.KeepsPending p)
    (hh : host.Keeps p) {f : Filter}
    {captured arguments : List Value} (hf : (Value.filter f captured).Throughout p)
    (ha : ∀ a ∈ arguments, a.Throughout p) :
    Gives (·.Throughout p) (f.apply host captured arguments) := by
  cases f with
  | generic body =>
    cases body with
    | library function => exact Run.gives_wrap (function.gives_call hp ha)
    | host name => exact Run.gives_wrap (hh.run hf rfl ha)
  | textual body =>
    refine Run.ends_pure ⟨hq _ _ _ hf.self, fun u hu => ?_⟩
    rcases List.mem_append.1 hu with hu | hu
    · exact hf.part hu
    · exact ha u hu
  | variadic name =>
    refine Run.gives_wrap (hh.run hf rfl fun a h => ?_)
    obtain rfl := List.mem_singleton.1 h
    exact .list hp ha
  | custom label name => exact hh.run hf rfl ha

theorem Host.Keeps.encloses (hp : Value.Ordinary p) (hq : Value.KeepsPending p)
    (hh : host.Keeps p) : host.Encloses (·.Throughout p) fun _ => True where
  toEncloses := hp.encloses
  result hf ha := Filter.gives_apply hp hq hh hf ha

/-! ## Evaluation -/

namespace Evaluator

variable {ev : Evaluator σ}

theorem gives_argument (hp : Value.Ordinary p) (a : Expr) (hv : v.Throughout p) :
    Gives (·.Throughout p) (ev.argument a v) :=
  encloses_argument hp.encloses a hv

theorem gives_callee (f : Expr) (hv : v.Throughout p) :
    Gives (fun callee => (Value.filter callee.1 callee.2).Throughout p)
      (callee f v : Run σ (Filter × List Value)) :=
  encloses_callee f hv

/-- What holds throughout the context holds throughout the values of expressions. -/
theorem gives_evaluate (hp : Value.Ordinary p) (hq : Value.KeepsPending p) (hh : ev.host.Keeps p)
    (hc : c.Throughout p) (x : Expr) : Gives (·.Throughout p) (ev.evaluate c x) :=
  encloses_evaluate (hh.encloses hp hq) hc x fun _ _ => trivial

theorem gives_evaluateArguments (hp : Value.Ordinary p) (hq : Value.KeepsPending p)
    (hh : ev.host.Keeps p) (hc : c.Throughout p) (l : List Expr) :
    Gives (fun values => ∀ u ∈ values, u.Throughout p) (ev.evaluateArguments c l) :=
  encloses_evaluateArguments (hh.encloses hp hq) hc l fun _ _ _ _ => trivial

end Evaluator

/-! ## Tags -/

namespace Engine

variable {e : Engine σ}

theorem gives_create (head : Head) (form : Form) :
    Gives (fun tag => tag.head = head ∧ tag.form = form) (create head form : Run σ Tag) :=
  fun _ => ⟨rfl, rfl⟩

theorem gives_resolve {R : Value → Prop} (tag : Tag)
    (hx : Gives R ((⟨e.host, e.policy⟩ : Evaluator σ).evaluate c tag.head.expression)) :
    Gives R (e.resolve tag c) := by
  unfold resolve
  refine hx.bind fun v hv => ?_
  by_cases h : (v.isMissing && decide (e.policy = .fail)) = true
  · rw [if_pos h]
    exact Run.ends_fail trivial
  · rw [if_neg h]
    exact Run.ends_pure hv

/-- What a tag ends with, by what its expression and the rendering of its value end with. -/
theorem gives_visit {α : Type} {P : α → Prop} {R : Value → Prop} {head : Head} {form : Form}
    {render : Tag → Value → Run σ α}
    (hx : Gives R ((⟨e.host, e.policy⟩ : Evaluator σ).evaluate c head.expression))
    (h : ∀ tag v, tag.form = form → R v → Gives P (render tag v)) :
    Gives P (e.visit head form c render) := by
  unfold visit
  refine (gives_create head form).bind fun tag htag => Run.gives_onFailure ?_
  obtain ⟨rfl, hform⟩ := htag
  refine (Run.gives_any _).bind_any fun _ => (gives_resolve tag hx).bind fun v hv => ?_
  refine (Run.gives_any _).bind_any fun _ => (Run.gives_any _).bind_any fun _ => ?_
  refine (h tag v hform hv).bind fun a ha => (Run.gives_any _).bind_any fun _ => ?_
  exact Run.ends_pure ha

end Engine

end

end Stencil
