-- Batches. A press reads a source once and renders the same tree for every context, so whatever way
-- a batch takes, it goes through its contexts with the run that renders a context alone.
import Mathlib
import Stencil.Proofs.Seclusion
import Stencil.Proofs.Slices
import Stencil.Proofs.Stores

namespace Stencil

/-! ## Compiled once -/

namespace Press

variable {p : Press} {source : String} {t : Template}

/-- The press has the tree for the source: it keeps it, or reads it when it is asked. -/
def Serves (p : Press) (source : String) (t : Template) : Prop :=
  ∃ c, (p.compile source).1 = .ok c ∧ c.template = t

/-- A press that has compiled a source has the same tree for it the next time. -/
theorem Serves.compile (h : p.Serves source t) : (p.compile source).2.Serves source t := by
  obtain ⟨c, compiled, tree⟩ := h
  cases found : p.store.find? source with
  | some kept =>
    have same := compile_of_find found
    rw [same]
    exact ⟨c, compiled, tree⟩
  | none =>
    cases hread : p.read source with
    | error r =>
      rw [compile_of_rejected found hread] at compiled
      cases compiled
    | ok u =>
      have stored := (Store.find?_insert (c := ⟨p.compiled, source, u⟩) found).2
      have same := compile_of_read found hread
      rw [same] at compiled
      obtain rfl : u = t := by
        cases compiled
        exact tree
      have again : (p.compile source).2.read source = .ok u := by
        rw [same]
        exact hread
      split at stored
      · have missing : (p.compile source).2.store.find? source = none := by rwa [same]
        exact ⟨_, congrArg Prod.fst (compile_of_read missing again), rfl⟩
      · have kept : (p.compile source).2.store.find? source = some ⟨p.compiled, source, u⟩ := by
          rwa [same]
        exact ⟨_, congrArg Prod.fst (compile_of_find kept), rfl⟩

/-- A source that passes the check has been compiled. -/
theorem Serves.of_check (valid : (p.check source).1 = []) :
    (∃ t, p.Serves source t) ∧ (p.check source).2 = (p.compile source).2 := by
  unfold check at valid ⊢
  split at valid
  · cases valid
  · rename_i notBlank
    rw [if_neg notBlank]
    rcases hc : p.compile source with ⟨_ | c, q⟩
    · rw [hc] at valid
      cases valid
    · exact ⟨⟨c.template, c, congrArg Prod.fst hc, rfl⟩, rfl⟩

theorem check_of_compile {c : Compiled} (notBlank : Text.isBlankText source = false)
    (compiled : (p.compile source).1 = .ok c) :
    (p.check source).1 = (p.unknownFilters c.template).map .unknownFilter := by
  have filters := p.filters_compile source
  unfold check
  rw [notBlank]
  rcases hc : p.compile source with ⟨r, q⟩
  rw [hc] at compiled filters
  obtain rfl : r = .ok c := compiled
  show (q.unknownFilters c.template).map _ = _
  unfold unknownFilters
  rw [show q.filters = p.filters from filters]

variable {σ : Type}

/-- A run with the compiled template, which needs only its tree, is a run with the tree that the
press has, on a press with the same settings and filters. -/
theorem Serves.withCompiled {α : Type} {f : Press → Compiled → Run σ α} {run : Run σ α}
    (h : p.Serves source t)
    (hf : ∀ q c, q.settings = p.settings → q.filters = p.filters → c.template = t → f q c = run) :
    (p.withCompiled source f).1 = run := by
  obtain ⟨c, compiled, tree⟩ := h
  have settings := p.settings_compile source
  have filters := p.filters_compile source
  unfold Press.withCompiled
  rcases hc : p.compile source with ⟨r, q⟩
  rw [hc] at compiled settings filters
  obtain rfl : r = .ok c := compiled
  exact hf q c settings filters tree

theorem render_eq {q : Press} {c : Compiled} (settings : q.settings = p.settings)
    (filters : q.filters = p.filters) (tree : c.template = t) (host : Host σ) (d : Value)
    (strict : Option Bool) :
    q.render host c d [] strict = (p.engine host strict).render t (p.context d []) := by
  simp only [render, engine, policy, context, rootContext, settings, filters, tree]

variable (host : Host σ) (contexts : List Value) (strict : Option Bool)

theorem Serves.renderSource (h : p.Serves source t) (d : Value) :
    (p.renderSource host source d strict).1 = (p.engine host strict).render t (p.context d []) :=
  h.withCompiled fun _ _ settings filters tree => render_eq settings filters tree host d strict

theorem Serves.renderMany (h : p.Serves source t) :
    (p.renderMany host source contexts strict).1 = do
      return (← Entry.ofContexts (fun d => (p.renderSource host source d strict).1) contexts).map
        Entry.text := by
  simp only [h.renderSource]
  refine h.withCompiled fun q c settings filters tree => ?_
  simp only [render_eq settings filters tree]

end Press

/-- A batch with a source that passes the check goes through its contexts one after the other,
whether or not they are cut into slices, and then reports on their entries. -/
theorem Batch.renderIn_eq {σ : Type} {p : Press} {source : String}
    (valid : (p.check source).1 = []) {b : Batch} (hw : b.parallel = true → 0 < b.workers)
    (hs : 0 < b.size) (order : List Part → List Part) (host : Host σ) (contexts : List Value)
    (strict : Option Bool) :
    (b.renderIn order p host source contexts strict).1 = do
      return b.report order
        (← Entry.ofContexts (fun d => (p.renderSource host source d strict).1) contexts) := by
  obtain ⟨⟨t, serves⟩, checked⟩ := Press.Serves.of_check valid
  simp only [serves.renderSource]
  unfold renderIn
  rcases hc : p.check source with ⟨findings, q⟩
  rw [hc] at valid checked
  obtain rfl : findings = [] := valid
  obtain rfl : q = (p.compile source).2 := checked
  refine serves.compile.withCompiled fun q c settings filters tree => ?_
  have same : ∀ d, q.render host c d [] strict =
      (p.engine host strict).render t (p.context d []) :=
    fun d => Press.render_eq (settings.trans (p.settings_compile source))
      (filters.trans (p.filters_compile source)) tree host d strict
  simp only [same]
  split
  · rename_i cut
    rw [renderSlices_eq (hw (Bool.and_eq_true_iff.1 cut).1) hs]
    refine Run.bind_congr_of_gives (Run.gives_each_length _ _) fun entries length => ?_
    rw [report, length, if_pos cut]
  · rename_i whole
    refine Run.bind_congr_of_gives (Run.gives_each_length _ _) fun entries length => ?_
    rw [report, length, if_neg whole]

/-! ## One context after the other -/

namespace Entry

variable {σ : Type} {render : Value → Run σ String} {contexts : List Value}

/-- The entry that a rendering comes to, if it ends with a text or a fault. -/
def of? : Outcome String → Option Entry
  | .done s => some (.ok s)
  | .failed (.fault f) => some (.error f.message)
  | .failed (.host _) | .exhausted => none

/-- Neither of two contexts changes what the other one comes to by being rendered before it. -/
def Apart (render : Value → Run σ String) (c d : Value) : Prop :=
  ∀ w, of? (render d (render c w).2).1 = of? (render d w).1 ∧
    of? (render c (render d w).2).1 = of? (render c w).1

/-- Contexts stand apart if each of them leads to a realm of its own: what one of them leaves
outside is all the same to the other one. -/
theorem apart_of_realms {p : Press} {source : String} {t : Template} (serves : p.Serves source t)
    {host : Host σ} {strict : Option Bool} {R S : Realm σ} (hR : R.Governs host)
    (hS : S.Governs host) {c d : Value} (hc : (p.context c []).Throughout R.owns)
    (hd : (p.context d []).Throughout S.owns) (unnoticed : ∀ o o', R.leaves o o' → S.alike o' o)
    (unnoticed' : ∀ o o', S.leaves o o' → R.alike o' o) :
    Apart (fun d => (p.renderSource host source d strict).1) c d := by
  intro w
  simp only [serves.renderSource]
  exact ⟨congrArg of? (Engine.outcome_after hS hR unnoticed hd hc _ t t w),
    congrArg of? (Engine.outcome_after hR hS unnoticed' hc hd _ t t w)⟩

/-- Contexts that share no stream stand apart, if nothing in them runs a function or a renderable of
the host. -/
theorem apart_of_streams {p : Press} {source : String} {t : Template} (serves : p.Serves source t)
    {host : Host σ} {strict : Option Bool} {X Y : Nat → Prop} (disjoint : ∀ id, X id → ¬ Y id)
    {c d : Value} (hc : (p.context c []).Throughout (Realm.ofStreams X : Realm σ).owns)
    (hd : (p.context d []).Throughout (Realm.ofStreams Y : Realm σ).owns) :
    Apart (fun d => (p.renderSource host source d strict).1) c d :=
  apart_of_realms serves (Realm.governs_ofStreams X host) (Realm.governs_ofStreams Y host) hc hd
    (fun _ _ h id hY => (h id fun hX => disjoint id hX hY).symm)
    (fun _ _ h id hX => (h id (disjoint id hX)).symm)

/-- The entries to which the contexts come alone, each of them in the same world. -/
def Alone (render : Value → Run σ String) (contexts : List Value) (w : World σ)
    (entries : List Entry) : Prop :=
  contexts.map (fun d => of? (render d w).1) = entries.map some

theorem Alone.length {w : World σ} {entries : List Entry} (h : Alone render contexts w entries) :
    entries.length = contexts.length := by
  simpa using (congrArg List.length h).symm

theorem Alone.getElem? {w : World σ} {entries : List Entry} (h : Alone render contexts w entries)
    {i : Nat} (hi : i < contexts.length) {outcome : Outcome String} {w' : World σ} {entry : Entry}
    (settled : render contexts[i] w = (outcome, w')) (known : of? outcome = some entry) :
    entries[i]? = some entry := by
  have same := congrArg (·[i]?) h
  simp only [List.getElem?_map, List.getElem?_eq_getElem hi, Option.map_some, settled,
    known] at same
  simpa using same.symm

/-- Contexts that all come to texts or faults come to entries. -/
theorem exists_alone {w : World σ}
    (settles : ∀ d ∈ contexts, (∃ s w', render d w = (.done s, w')) ∨
      ∃ f w', render d w = (.failed (.fault f), w')) :
    ∃ entries, Alone render contexts w entries := by
  induction contexts with
  | nil => exact ⟨[], rfl⟩
  | cons d rest ih =>
    obtain ⟨entries, alone⟩ := ih fun c hc => settles c (List.mem_cons_of_mem _ hc)
    obtain ⟨entry, known⟩ : ∃ entry, of? (render d w).1 = some entry := by
      rcases settles d List.mem_cons_self with ⟨s, w', h⟩ | ⟨f, w', h⟩
      · exact ⟨.ok s, congrArg (of? ·.1) h⟩
      · exact ⟨.error f.message, congrArg (of? ·.1) h⟩
    exact ⟨entry :: entries, List.cons_eq_cons.2 ⟨known, alone⟩⟩

theorem ofContexts_cons {d : Value} {rest : List Value} {w : World σ} {entry : Entry}
    (h : of? (render d w).1 = some entry) :
    ofContexts render (d :: rest) w =
      (do return entry :: (← ofContexts render rest)) (render d w).2 := by
  refine Run.each_cons_of_done ?_
  rw [Run.bind_apply]
  unfold Run.attempt
  rcases hr : render d w with ⟨s | (f | error) | _, w'⟩ <;> rw [hr] at h <;> cases h
  · rfl
  · rfl

/-- Contexts that stand apart come to the entries to which they come alone. -/
theorem ofContexts_of_apart (apart : contexts.Pairwise (Apart render)) {entries : List Entry}
    {w : World σ} (alone : Alone render contexts w entries) :
    ∃ w', ofContexts render contexts w = (.done entries, w') := by
  induction contexts generalizing entries w with
  | nil =>
    cases entries with
    | nil => exact ⟨w, rfl⟩
    | cons entry entries => cases alone
  | cons d rest ih =>
    cases entries with
    | nil => cases alone
    | cons entry entries =>
      obtain ⟨first, others⟩ := List.pairwise_cons.1 apart
      obtain ⟨own, alone⟩ := List.cons.inj alone
      have later : rest.map (fun c => of? (render c (render d w).2).1) = entries.map some :=
        (List.map_congr_left fun c hc => (first c hc w).1).trans alone
      obtain ⟨w', done⟩ := ih others later
      refine ⟨w', ?_⟩
      rw [ofContexts_cons own, Run.bind_apply, done]
      rfl

end Entry

/-! ## Every way through a batch -/

/-- All ways through a batch agree and account for every context. The source passes the check, no
context changes what another one comes to, as it is when they share no stream and no function with
a state (`Entry.apart_of_realms`), and each one alone comes to a text or a fault; then
whatever the size of the slices, with and without slices, and in whatever order these are finished,
the report has what each context comes to alone, and the texts are those that the press itself gives
for the contexts. -/
theorem Batch.renders_each_as_alone {σ : Type} {p : Press} {source : String}
    (valid : (p.check source).1 = []) {b : Batch} (workers : b.parallel = true → 0 < b.workers)
    (size : 1 ≤ b.size) {order : List Part → List Part}
    (finished : ∀ parts, (order parts).Perm parts)
    (host : Host σ) (contexts : List Value) (strict : Option Bool)
    (apart : contexts.Pairwise (Entry.Apart fun d => (p.renderSource host source d strict).1))
    (w : World σ)
    (settles : ∀ d ∈ contexts,
      (∃ s w', (p.renderSource host source d strict).1 w = (.done s, w')) ∨
      ∃ f w', (p.renderSource host source d strict).1 w = (.failed (.fault f), w')) :
    ∃ report w', (b.renderIn order p host source contexts strict).1 w = (.done report, w') ∧
      (p.renderMany host source contexts strict).1 w = (.done report.texts, w') ∧
      report.texts.length = contexts.length ∧
      (∀ i (hi : i < contexts.length),
        (∀ s w', (p.renderSource host source contexts[i] strict).1 w = (.done s, w') →
          report.texts[i]? = some s ∧ ∀ message, (i, message) ∉ report.faults) ∧
        ∀ f w', (p.renderSource host source contexts[i] strict).1 w = (.failed (.fault f), w') →
          report.texts[i]? = some ("ERROR: " ++ f.message) ∧
            ∀ message, (i, message) ∈ report.faults ↔ message = f.message) ∧
      (∀ fault ∈ report.faults, fault.1 < contexts.length) ∧
      report.faults.Pairwise (fun a b => a.1 < b.1) ∧
      report.succeeded + report.faults.length = contexts.length ∧
      report.progress.sum = contexts.length := by
  obtain ⟨entries, alone⟩ := Entry.exists_alone settles
  obtain ⟨w', done⟩ := Entry.ofContexts_of_apart apart alone
  obtain ⟨⟨t, serves⟩, _⟩ := Press.Serves.of_check valid
  have accounts := accounts_report finished size entries
  have length := alone.length
  refine ⟨b.report order entries, w', ?_, ?_, accounts.length_texts.trans length, fun i hi => ?_,
    fun fault hf => length ▸ accounts.lt_of_mem_faults hf, accounts.pairwise_faults,
    length ▸ accounts.counts, length ▸ accounts.progress⟩
  · rw [renderIn_eq valid workers size, Run.bind_apply, done]
    rfl
  · rw [serves.renderMany, Run.bind_apply, done, accounts.texts]
    rfl
  · constructor
    · intro s v h
      exact accounts.of_text (alone.getElem? hi h rfl)
    · intro f v h
      exact accounts.of_error (alone.getElem? hi h rfl)

namespace Batch

/-- Someone with books, and with a name or without one. -/
def owner (name : Option String) (books : Value) : Value :=
  .mapping ((name.map fun s => (.text "name", .text s)).toList ++ [(.text "books", books)])

/-- A stream of books, which can be gone through once. -/
def books (id : Nat) : Value := .stream "generator" id [.text "Emma", .text "Ulysses"]

/-- Two owners with streams of their own, one of them without a name, and a hundred without books.
-/
def owners : List Value :=
  owner (some "Ada") (books 0) :: owner none (books 1) ::
    List.replicate 100 (owner (some "Eve") (.list []))

def ownersPage : String :=
  "\x7b\x7b#books\x7d\x7d\x7b\x7b.\x7d\x7d \x7b\x7b/books\x7d\x7d\x7b\x7bname\x7d\x7d"

/-- What belongs to an owner whose books are in these streams. -/
abbrev Owned (streams : Nat → Prop) : Value → Prop := (Realm.ofStreams streams : Realm Unit).owns

theorem ordinary_owned (X : Nat → Prop) : Value.Ordinary (Owned X) :=
  (Realm.governs_ofStreams X Host.none).ordinary

theorem owned_text {X : Nat → Prop} (s : String) : (Value.text s).Throughout (Owned X) :=
  .simple ((ordinary_owned X).text s) rfl

/-- A press with the standard library and an owner lead only to the streams of the books. -/
theorem throughout_owner {X : Nat → Prop} (name : Option String) {books : Value}
    (h : books.Throughout (Owned X)) :
    ((Press.start {}).context (owner name books) []).Throughout (Owned X) := by
  have filters : ∀ f ∈ Library.standard, f.2.Throughout (Owned X) := by
    refine Library.throughout_standard (ordinary_owned X) fun f own => ⟨rfl, ?_, nofun⟩
    simp [Value.block?, own]
  refine .ofPress (ordinary_owned X) filters (.mapping (ordinary_owned X) fun e he => ?_)
    (.mapping (ordinary_owned X) (by simp))
  rcases List.mem_append.1 he with he | he
  · obtain ⟨s, -, rfl⟩ := Option.map_eq_some_iff.1 (Option.mem_toList.1 he)
    exact ⟨owned_text _, owned_text _⟩
  · obtain rfl := List.mem_singleton.1 he
    exact ⟨owned_text _, h⟩

theorem throughout_books {X : Nat → Prop} {id : Nat} (own : X id) :
    (books id).Throughout (Owned X) := by
  refine ⟨⟨rfl, rfl, fun label other items ending same => ?_⟩, fun u hu => ?_⟩
  · cases same
    exact own
  · have item : u = .text "Emma" ∨ u = .text "Ulysses" := by simpa [books, Value.parts] using hu
    rcases item with rfl | rfl
    · exact owned_text _
    · exact owned_text _

theorem renders_each_as_alone_owners :
    ∃ report w', ((Batch.mk 10 3 true).renderIn List.reverse (.start {}) Host.none ownersPage
        owners (some true)).1 (.start ()) = (.done report, w') ∧
      ((Press.start {}).renderMany Host.none ownersPage owners (some true)).1 (.start ()) =
        (.done report.texts, w') ∧
      report.texts[0]? = some "Emma Ulysses Ada" ∧
      (1, "Unresolved identifier 'name' (line 1)") ∈ report.faults := by
  let p : Press := .start {}
  let w : World Unit := .start ()
  have parsed : p.read ownersPage = .ok [
      .sectionTag ⟨.name "books", ⟨1, 1, none⟩⟩ false
        [.variableTag ⟨.top, ⟨1, 11, none⟩⟩ true, .text " "] "\x7b\x7b.\x7d\x7d ",
      .variableTag ⟨.name "name", ⟨1, 27, none⟩⟩ true] := by cbv
  have compiled := congrArg Prod.fst (Press.compile_of_read (p := p) rfl parsed)
  have serves : p.Serves ownersPage _ := ⟨_, compiled, rfl⟩
  have valid : (p.check ownersPage).1 = [] := by
    rw [Press.check_of_compile (by cbv) compiled]
    cbv
  let comesTo (d : Value) : Outcome String :=
    ((p.renderSource Host.none ownersPage d (some true)).1 w).1
  have ada : comesTo (owner (some "Ada") (books 0)) = .done "Emma Ulysses Ada" := by
    simp only [comesTo, serves.renderSource]
    cbv
  have nameless : comesTo (owner none (books 1)) =
      .failed (.fault ⟨.unresolved "name", some ⟨1, 27, none⟩⟩) := by
    simp only [comesTo, serves.renderSource]
    cbv
  have eve : comesTo (owner (some "Eve") (.list [])) = .done "Eve" := by
    simp only [comesTo, serves.renderSource]
    cbv
  have settles : ∀ d ∈ owners,
      (∃ s w', (p.renderSource Host.none ownersPage d (some true)).1 w = (.done s, w')) ∨
      ∃ f w', (p.renderSource Host.none ownersPage d (some true)).1 w =
        (.failed (.fault f), w') := by
    intro d hd
    simp only [owners, List.mem_cons, List.mem_replicate] at hd
    rcases hd with rfl | rfl | ⟨-, rfl⟩
    · exact .inl ⟨_, _, Prod.ext ada rfl⟩
    · exact .inr ⟨_, _, Prod.ext nameless rfl⟩
    · exact .inl ⟨_, _, Prod.ext eve rfl⟩
  have apart : owners.Pairwise
      (Entry.Apart fun d => (p.renderSource Host.none ownersPage d (some true)).1) := by
    have first := throughout_owner (some "Ada") (throughout_books (X := (· = 0)) rfl)
    have second := throughout_owner none (throughout_books (X := (· = 1)) rfl)
    have other : (p.context (owner (some "Eve") (.list [])) []).Throughout
        (Owned fun _ => False) :=
      throughout_owner _ (.simple ((ordinary_owned _).list []) rfl)
    refine .cons (fun d hd => ?_) (.cons (fun d hd => ?_) (List.pairwise_replicate.2 (.inr ?_)))
    · rcases List.mem_cons.1 hd with rfl | hd
      · exact Entry.apart_of_streams serves (by omega) first second
      · obtain rfl := List.eq_of_mem_replicate hd
        exact Entry.apart_of_streams serves (fun _ _ => id) first other
    · obtain rfl := List.eq_of_mem_replicate hd
      exact Entry.apart_of_streams serves (fun _ _ => id) second other
    · exact Entry.apart_of_streams serves (fun _ _ => id) other other
  obtain ⟨report, w', done, many, -, each, -⟩ :=
    renders_each_as_alone valid (b := ⟨10, 3, true⟩) (by decide) (by decide) List.reverse_perm
      Host.none owners (some true) apart w settles
  refine ⟨report, w', done, many, ?_, ?_⟩
  · exact ((each 0 (by decide)).1 _ _ (Prod.ext ada rfl)).1
  · exact (((each 1 (by decide)).2 _ _ (Prod.ext nameless rfl)).2 _).2 (by decide)

end Batch

end Stencil
