-- Sessions. A caller asks a press for one thing after the other and holds on to the templates it
-- got. Whatever the press keeps of them, it answers like a press that keeps nothing: what is kept
-- depends on the source alone, and filters are looked up only when a template is rendered.
import Mathlib
import Stencil.Batch
import Stencil.Proofs.Stores

namespace Stencil

/-! ## Requests -/

/-- What a caller may ask of a press. -/
inductive Request where
  | register (name : String) (value : Value)
  | compile (source : String)
  | render (source : String) (data : Value) (strict : Option Bool)
  | renderMany (source : String) (contexts : List Value) (strict : Option Bool)
  /-- Asks for the text of a template that the caller holds. They are numbered in the order in which
  the caller got them. -/
  | renderHeld (number : Nat) (data : Value) (named : List (Value × Value)) (strict : Option Bool)
  | check (source : String)
  | valueNames (source : String)
  | filterNames (source : String)

/-- What a caller gets. -/
inductive Response where
  | registered (result : Except HostError Unit)
  /-- The source and the tree of the compiled template. -/
  | compiled (result : Except Template.Rejection (String × Template))
  | text (outcome : Outcome String)
  | texts (outcome : Outcome (List String))
  /-- The caller holds no template with this number. -/
  | notHeld
  | findings (findings : List Finding)
  | names (result : Except Template.Rejection (List String))

structure Session (σ : Type) where
  press : Press
  /-- The templates that the caller holds, in the order in which it got them. -/
  held : List Compiled
  world : World σ

variable {σ : Type}

namespace Session

def start (press : Press) (world : World σ) : Session σ := ⟨press, [], world⟩

/-- The response to a request, and the session after it. -/
def ask (host : Host σ) (s : Session σ) : Request → Response × Session σ
  | .register name value =>
    match s.press.register name value with
    | .ok press => (.registered (.ok ()), { s with press })
    | .error error => (.registered (.error error), s)
  | .compile source =>
    match s.press.compile source with
    | (.ok c, press) =>
      (.compiled (.ok (c.source, c.template)), { s with press, held := s.held ++ [c] })
    | (.error r, press) => (.compiled (.error r), { s with press })
  | .render source data strict =>
    let (run, press) := s.press.renderSource host source data strict
    let (outcome, world) := run s.world
    (.text outcome, { s with press, world })
  | .renderMany source contexts strict =>
    let (run, press) := s.press.renderMany host source contexts strict
    let (outcome, world) := run s.world
    (.texts outcome, { s with press, world })
  | .renderHeld number data named strict =>
    match s.held[number]? with
    | some c =>
      let (outcome, world) := s.press.render host c data named strict s.world
      (.text outcome, { s with world })
    | none => (.notHeld, s)
  | .check source =>
    let (findings, press) := s.press.check source
    (.findings findings, { s with press })
  | .valueNames source => (.names ((s.press.read source).map Template.valueNames), s)
  | .filterNames source => (.names ((s.press.read source).map Template.filterNames), s)

/-- The responses to requests, one after the other, and the session after them. -/
def serve (host : Host σ) (s : Session σ) : List Request → List Response × Session σ
  | [] => ([], s)
  | request :: rest =>
    let (response, s) := s.ask host request
    let (responses, s) := s.serve host rest
    (response :: responses, s)

end Session

/-! ## Presses that differ in what they keep -/

namespace Press

/-- Two presses that are alike, except in how much they keep and in what they keep by now. -/
structure Twins (p q : Press) : Prop where
  settings : { p.settings with cacheSize := 0 } = { q.settings with cacheSize := 0 }
  filters : p.filters = q.filters
  left : p.Sound
  right : q.Sound

namespace Twins

variable {p q : Press}

theorem read (h : p.Twins q) (source : String) : p.read source = q.read source := by
  have name : p.settings.templateName = q.settings.templateName :=
    congrArg (·.templateName) h.settings
  unfold Press.read
  rw [name]

theorem render (h : p.Twins q) (host : Host σ) {c d : Compiled} (tree : c.template = d.template)
    (data : Value) (named : List (Value × Value)) (strict : Option Bool) :
    p.render host c data named strict = q.render host d data named strict := by
  have missing : p.settings.missing = q.settings.missing := congrArg (·.missing) h.settings
  have content : p.settings.contentType = q.settings.contentType :=
    congrArg (·.contentType) h.settings
  have policy : p.policy strict = q.policy strict := by
    unfold Press.policy
    rw [missing]
  unfold Press.render engine context rootContext
  rw [policy, content, h.filters, tree]

theorem unknownFilters (h : p.Twins q) (t : Template) :
    p.unknownFilters t = q.unknownFilters t := by
  unfold Press.unknownFilters
  rw [h.filters]

theorem register (h : p.Twins q) (name : String) (value : Value) :
    (∃ error, p.register name value = .error error ∧ q.register name value = .error error) ∨
      ∃ p' q', p.register name value = .ok p' ∧ q.register name value = .ok q' ∧ p'.Twins q' := by
  unfold Press.register
  cases asFilters value with
  | error error => exact .inl ⟨error, rfl, rfl⟩
  | ok found =>
    refine .inr ⟨_, _, rfl, rfl, ⟨h.settings, ?_, h.left, h.right⟩⟩
    exact congrArg (Filters.put name found) h.filters

/-- Compiling a source comes to the same, whether or not the press keeps a template for it. -/
theorem compile (h : p.Twins q) (source : String) :
    ∃ p' q', p'.Twins q' ∧
      ((∃ r, p.compile source = (.error r, p') ∧ q.compile source = (.error r, q')) ∨
        ∃ c d, p.compile source = (.ok c, p') ∧ q.compile source = (.ok d, q') ∧
          c.view = d.view) := by
  obtain ⟨left, mine⟩ := h.left.compile source
  obtain ⟨right, theirs⟩ := h.right.compile source
  refine ⟨_, _, ⟨?_, ?_, left, right⟩, ?_⟩
  · rw [p.settings_compile, q.settings_compile, h.settings]
  · rw [p.filters_compile, q.filters_compile, h.filters]
  · rw [← h.read source, ← mine] at theirs
    rcases hp : p.compile source with ⟨r | c, p'⟩ <;>
      rcases hq : q.compile source with ⟨r' | d, q'⟩ <;>
      rw [hp, hq] at theirs
    · exact .inl ⟨r, rfl, by rw [Except.error.inj theirs]⟩
    · cases theirs
    · cases theirs
    · exact .inr ⟨c, d, rfl, rfl, (Except.ok.inj theirs).symm⟩

/-- Twins stay twins when they run something with the template for a source. -/
theorem withCompiled {α : Type} {f g : Press → Compiled → Run σ α} (h : p.Twins q)
    (source : String)
    (same : ∀ p' q' c d, p'.Twins q' → c.template = d.template → f p' c = g q' d) :
    (p.withCompiled source f).1 = (q.withCompiled source g).1 ∧
      (p.withCompiled source f).2.Twins (q.withCompiled source g).2 := by
  obtain ⟨p', q', twins, ⟨r, mine, theirs⟩ | ⟨c, d, mine, theirs, view⟩⟩ := h.compile source
  · simp only [Press.withCompiled, mine, theirs]
    exact ⟨trivial, twins⟩
  · simp only [Press.withCompiled, mine, theirs]
    exact ⟨same p' q' c d twins (congrArg Prod.snd view), twins⟩

theorem renderSource (h : p.Twins q) (host : Host σ) (source : String) (data : Value)
    (strict : Option Bool) :
    (p.renderSource host source data strict).1 = (q.renderSource host source data strict).1 ∧
      (p.renderSource host source data strict).2.Twins
        (q.renderSource host source data strict).2 :=
  h.withCompiled source fun _ _ _ _ twins tree => twins.render host tree data [] strict

theorem renderMany (h : p.Twins q) (host : Host σ) (source : String) (contexts : List Value)
    (strict : Option Bool) :
    (p.renderMany host source contexts strict).1 = (q.renderMany host source contexts strict).1 ∧
      (p.renderMany host source contexts strict).2.Twins
        (q.renderMany host source contexts strict).2 :=
  h.withCompiled source fun _ _ _ _ twins tree => by
    simp only [twins.render host tree]

theorem check (h : p.Twins q) (source : String) :
    (p.check source).1 = (q.check source).1 ∧ (p.check source).2.Twins (q.check source).2 := by
  unfold Press.check
  split
  · exact ⟨rfl, h⟩
  · obtain ⟨p', q', twins, ⟨r, mine, theirs⟩ | ⟨c, d, mine, theirs, view⟩⟩ := h.compile source
    · rw [mine, theirs]
      exact ⟨rfl, twins⟩
    · have tree : c.template = d.template := congrArg Prod.snd view
      simp only [mine, theirs, twins.unknownFilters, tree]
      exact ⟨trivial, twins⟩

/-- Presses of which each filter is put into one as into the other, and that are refused alike. -/
theorem foldlM (h : p.Twins q) (filters : Filters) :
    (∃ error, filters.foldlM (fun p (name, value) => p.register name value) p = .error error ∧
      filters.foldlM (fun p (name, value) => p.register name value) q = .error error) ∨
    ∃ p' q', filters.foldlM (fun p (name, value) => p.register name value) p = .ok p' ∧
      filters.foldlM (fun p (name, value) => p.register name value) q = .ok q' ∧ p'.Twins q' := by
  induction filters generalizing p q with
  | nil => exact .inr ⟨p, q, rfl, rfl, h⟩
  | cons f rest ih =>
    obtain ⟨name, value⟩ := f
    simp only [List.foldlM_cons]
    rcases h.register name value with ⟨error, mine, theirs⟩ | ⟨p', q', mine, theirs, twins⟩
    · rw [mine, theirs]
      exact .inl ⟨error, rfl, rfl⟩
    · rw [mine, theirs]
      exact ih twins

end Twins

theorem twins_start (settings : Settings) (k m : Nat) :
    (start { settings with cacheSize := k }).Twins (start { settings with cacheSize := m }) where
  settings := rfl
  filters := rfl
  left := sound_start _
  right := sound_start _

/-- A press with the same settings and filters that has compiled nothing yet, and keeps nothing. -/
def emptied (p : Press) : Press := { p with store := .empty 0, compiled := 0 }

theorem Sound.twins_emptied {p : Press} (h : p.Sound) : p.Twins p.emptied where
  settings := rfl
  filters := rfl
  left := h
  right := Store.sound_empty _

end Press

/-! ## Sessions -/

namespace Session

/-- Two sessions that a caller cannot tell apart. -/
structure Twins (s s' : Session σ) : Prop where
  press : s.press.Twins s'.press
  held : s.held.map Compiled.view = s'.held.map Compiled.view
  world : s.world = s'.world

variable {host : Host σ} {s s' : Session σ}

/-- Twins give the same response to a request, and stay twins. -/
theorem Twins.ask (h : s.Twins s') (request : Request) :
    (s.ask host request).1 = (s'.ask host request).1 ∧
      (s.ask host request).2.Twins (s'.ask host request).2 := by
  obtain ⟨press, held, world⟩ := h
  cases request with
  | register name value =>
    rcases press.register name value with ⟨error, mine, theirs⟩ | ⟨p, q, mine, theirs, twins⟩
    · simp only [Session.ask, mine, theirs]
      exact ⟨trivial, press, held, world⟩
    · simp only [Session.ask, mine, theirs]
      exact ⟨trivial, twins, held, world⟩
  | compile source =>
    obtain ⟨p, q, twins, ⟨r, mine, theirs⟩ | ⟨c, d, mine, theirs, view⟩⟩ := press.compile source
    · simp only [Session.ask, mine, theirs]
      exact ⟨trivial, twins, held, world⟩
    · simp only [Session.ask, mine, theirs]
      refine ⟨congrArg (fun v => Response.compiled (.ok v)) view, twins, ?_, world⟩
      simp only [List.map_append, held, List.map_cons, view, List.map_nil]
  | render source data strict =>
    obtain ⟨run, twins⟩ := press.renderSource host source data strict
    simp only [Session.ask, run, world]
    exact ⟨trivial, twins, held, rfl⟩
  | renderMany source contexts strict =>
    obtain ⟨run, twins⟩ := press.renderMany host source contexts strict
    simp only [Session.ask, run, world]
    exact ⟨trivial, twins, held, rfl⟩
  | renderHeld number data named strict =>
    have same := congrArg (·[number]?) held
    simp only [List.getElem?_map] at same
    cases mine : s.held[number]? with
    | none =>
      cases theirs : s'.held[number]? with
      | none =>
        simp only [Session.ask, mine, theirs]
        exact ⟨trivial, press, held, world⟩
      | some d => simp [mine, theirs] at same
    | some c =>
      cases theirs : s'.held[number]? with
      | none => simp [mine, theirs] at same
      | some d =>
        have view : c.view = d.view := by simpa [mine, theirs] using same
        have run := press.render host (congrArg Prod.snd view) data named strict
        simp only [Session.ask, mine, theirs, run, world]
        exact ⟨trivial, press, held, rfl⟩
  | check source =>
    obtain ⟨findings, twins⟩ := press.check source
    simp only [Session.ask, findings]
    exact ⟨trivial, twins, held, world⟩
  | valueNames source =>
    simp only [Session.ask, press.read]
    exact ⟨trivial, press, held, world⟩
  | filterNames source =>
    simp only [Session.ask, press.read]
    exact ⟨trivial, press, held, world⟩

/-- Twins give the same responses to any requests. -/
theorem Twins.serve (h : s.Twins s') (requests : List Request) :
    (s.serve host requests).1 = (s'.serve host requests).1 ∧
      (s.serve host requests).2.Twins (s'.serve host requests).2 := by
  induction requests generalizing s s' with
  | nil => exact ⟨rfl, h⟩
  | cons request rest ih =>
    have asked : (s.ask host request).1 = (s'.ask host request).1 ∧
        (s.ask host request).2.Twins (s'.ask host request).2 := h.ask request
    obtain ⟨response, twins⟩ := asked
    obtain ⟨responses, after⟩ := ih twins
    exact ⟨List.cons_eq_cons.2 ⟨response, responses⟩, after⟩

theorem twins_start {p q : Press} (h : p.Twins q) (w : World σ) : (start p w).Twins (start q w) :=
  ⟨h, rfl, rfl⟩

/-- What a caller holds has the tree that its press would read now. -/
structure Sound (s : Session σ) : Prop where
  press : s.press.Sound
  held : ∀ c ∈ s.held, s.press.read c.source = .ok c.template

theorem sound_start {p : Press} (h : p.Sound) (w : World σ) : (start p w).Sound :=
  ⟨h, nofun⟩

/-- A session stays sound when its press compiles something. -/
theorem Sound.compile (h : s.Sound) (source : String) (world : World σ) :
    Sound ⟨(s.press.compile source).2, s.held, world⟩ := by
  refine ⟨(h.press.compile source).1, fun c hc => ?_⟩
  rw [Press.read_compile]
  exact h.held c hc

theorem Sound.ask (h : s.Sound) (request : Request) : (s.ask host request).2.Sound := by
  cases request with
  | register name value =>
    cases registered : s.press.register name value with
    | error error =>
      simp only [Session.ask, registered]
      exact h
    | ok p =>
      simp only [Session.ask, registered]
      refine ⟨h.press.register registered, ?_⟩
      obtain ⟨found, _, rfl⟩ := Press.exists_of_register registered
      exact h.held
  | compile source =>
    have after := h.compile source s.world
    have same := s.press.read_compile source
    rcases hc : s.press.compile source with ⟨r | c, p⟩ <;> rw [hc] at after same
    · simp only [Session.ask, hc]
      exact after
    · simp only [Session.ask, hc]
      refine ⟨after.press, fun d hd => ?_⟩
      rcases List.mem_append.1 hd with hd | hd
      · exact after.held d hd
      · obtain rfl := List.mem_singleton.1 hd
        obtain ⟨rfl, tree⟩ := h.press.of_compile (congrArg Prod.fst hc)
        rw [same]
        exact tree
  | render source data strict =>
    simp only [Session.ask, Press.renderSource, Press.withCompiled_press]
    exact h.compile source _
  | renderMany source contexts strict =>
    simp only [Session.ask, Press.renderMany, Press.withCompiled_press]
    exact h.compile source _
  | renderHeld number data named strict =>
    simp only [Session.ask]
    split
    · exact ⟨h.press, h.held⟩
    · exact h
  | check source =>
    simp only [Session.ask]
    rcases s.press.check_press source with same | same <;> rw [same]
    · exact h
    · exact h.compile source _
  | valueNames source => exact h
  | filterNames source => exact h

theorem Sound.serve (h : s.Sound) (requests : List Request) : (s.serve host requests).2.Sound := by
  induction requests generalizing s with
  | nil => exact h
  | cons request rest ih => exact ih (h.ask request)

/-- A template in hand renders like the one that a press with the same settings and filters, which
has compiled nothing yet, makes of its source. -/
theorem Sound.exists_fresh (h : s.Sound) {c : Compiled} (hc : c ∈ s.held) (host : Host σ) :
    ∃ d, (s.press.emptied.compile c.source).1 = .ok d ∧ d.view = c.view ∧
      ∀ data named strict, s.press.render host c data named strict =
        s.press.emptied.render host d data named strict := by
  have twins := h.press.twins_emptied
  have reads : s.press.emptied.read c.source = .ok c.template := h.held c hc
  obtain ⟨d, compiled, view⟩ := twins.right.exists_compile reads
  exact ⟨d, compiled, view, fun data named strict =>
    twins.render host (congrArg Prod.snd view).symm data named strict⟩

/-- What a press keeps cannot be told from outside. With whatever capacity, it gives the same
responses to any requests as a press that keeps nothing. Each template that the caller holds,
kept by the press or not, renders with the filters that there are now, like a template that
is compiled anew. -/
theorem serves_as_if_nothing_is_kept (settings : Settings) (capacity : Nat) (filters : Filters)
    (host : Host σ) (w : World σ) (requests : List Request) :
    (Press.create { settings with cacheSize := capacity } filters).map
        (fun p => ((start p w).serve host requests).1) =
      (Press.create { settings with cacheSize := 0 } filters).map
        (fun p => ((start p w).serve host requests).1) ∧
    ∀ p, Press.create { settings with cacheSize := capacity } filters = .ok p →
      ∀ s, s = ((start p w).serve host requests).2 → ∀ c ∈ s.held,
        ∃ d, (s.press.emptied.compile c.source).1 = .ok d ∧ d.view = c.view ∧
          ∀ data named strict, s.press.render host c data named strict =
            s.press.emptied.render host d data named strict := by
  constructor
  · rcases (Press.twins_start settings capacity 0).foldlM filters with
      ⟨error, mine, theirs⟩ | ⟨p, q, mine, theirs, twins⟩
    · simp only [Press.create, mine, theirs, Except.map]
    · simp only [Press.create, mine, theirs, Except.map]
      exact congrArg Except.ok ((twins_start twins w).serve requests).1
  · rintro p created s rfl c hc
    have sound : (start p w).Sound := sound_start (Press.made_create created).sound w
    exact (sound.serve requests).exists_fresh hc host

/-- A press with room for one template and without the library. -/
def narrow : Settings := { standardLibrary := false, cacheSize := 1 }

def loudPage : String := "\x7b\x7bloud(x)\x7d\x7d"

def loudData : Value := .mapping [(.text "x", .text "a")]

/-- A page is compiled, it makes room for another one, and only then its filter is registered. -/
def lateRequests : List Request := [
  .compile loudPage, .renderHeld 0 loudData [] none, .compile "b",
  .register "loud" (.filter (.textual (.library .upper)) []), .renderHeld 0 loudData [] none]

def lateSession : Session Unit :=
  ((start (.start narrow) (.start ())).serve Host.none lateRequests).2

def loudTree : Template :=
  [.variableTag ⟨.call (.name "loud") (.name "x") [], ⟨1, 1, none⟩⟩ true]

/-- The filter is not there, and then it is; the press has dropped the page in between. -/
def lateResponses : List Response := [
  .compiled (.ok (loudPage, loudTree)),
  .text (.failed (.fault ⟨.unresolved "loud", some ⟨1, 1, none⟩⟩)),
  .compiled (.ok ("b", [.text "b"])), .registered (.ok ()), .text (.done "A")]

theorem serves_as_if_nothing_is_kept_late :
    Press.create narrow [] = .ok (.start narrow) ∧
      ((start (.start { narrow with cacheSize := 0 }) (.start ())).serve Host.none
        lateRequests).1 = lateResponses ∧
      lateSession.press.store.sources = ["b"] ∧
      ⟨0, loudPage, loudTree⟩ ∈ lateSession.held ∧
      ∃ d, (lateSession.press.emptied.compile loudPage).1 = .ok d ∧
        (lateSession.press.emptied.render Host.none d loudData [] none (.start ())).1 =
          .done "A" := by
  have responses : ((start (.start narrow) (.start ())).serve Host.none lateRequests).1 =
      lateResponses := by cbv
  have held : ⟨0, loudPage, loudTree⟩ ∈ lateSession.held := by
    have all : lateSession.held = [⟨0, loudPage, loudTree⟩, ⟨1, "b", [.text "b"]⟩] := by cbv
    rw [all]
    exact List.mem_cons_self
  obtain ⟨alike, fresh⟩ := serves_as_if_nothing_is_kept narrow 1 [] Host.none (.start ())
    lateRequests
  obtain ⟨d, compiled, _, same⟩ := fresh (.start narrow) rfl lateSession rfl _ held
  refine ⟨rfl, (Except.ok.inj alike).symm.trans responses, by cbv, held, d, compiled, ?_⟩
  rw [← same]
  cbv

end Session

end Stencil
