-- Callers at the same time. Each caller has a source compiled: it looks into the store, reads the
-- source if the store has nothing for it, and puts the template into the store. Only the first and
-- the last step have the store to themselves, so in between others may put in templates for the
-- same source, or fill the store. What the store always is holds after each step all the same.
import Mathlib
import Stencil.Proofs.Stores

namespace Stencil

/-! ## Calls -/

/-- How far a call has come. -/
inductive Stage where
  /-- Nothing has been done for it. -/
  | called
  /-- The store had nothing for its source. -/
  | missed
  /-- Its source has been read. -/
  | read (t : Template)
  | returned (c : Compiled)
  | rejected (r : Template.Rejection)

/-- A call that has a source compiled. -/
structure Call where
  source : String
  stage : Stage

namespace Stage

/-- How many steps a call takes at most before it ends. -/
def ahead : Stage → Nat
  | .called => 3
  | .missed => 2
  | .read _ => 1
  | .returned _ | .rejected _ => 0

/-- What a stage says of the source. -/
def Fits (read : String → Except Template.Rejection Template) (source : String) : Stage → Prop
  | .called | .missed => True
  | .read t => read source = .ok t
  | .returned c => c.source = source ∧ read source = .ok c.template
  | .rejected r => read source = .error r

end Stage

namespace Press

/-- The tree of a source, put into the store as a new template; answers with the one that the
caller gets. -/
def put (p : Press) (source : String) (t : Template) : Compiled × Press :=
  let (c, store) := p.store.insert ⟨p.compiled, source, t⟩
  (c, { p with store, compiled := p.compiled + 1 })

/-- The next step of a call. -/
def turn (p : Press) (call : Call) : Stage × Press :=
  match call.stage with
  | .called =>
    match p.store.find? call.source with
    | some kept => (.returned kept, p)
    | none => (.missed, p)
  | .missed =>
    match p.read call.source with
    | .ok t => (.read t, p)
    | .error r => (.rejected r, p)
  | .read t =>
    let (c, q) := p.put call.source t
    (.returned c, q)
  | .returned _ | .rejected _ => (call.stage, p)

end Press

/-- A press and the calls that are under way on it. -/
structure Crowd where
  press : Press
  calls : List Call

namespace Crowd

/-- Calls for sources, for none of which anything has been done. -/
def gather (p : Press) (sources : List String) : Crowd := ⟨p, sources.map (⟨·, .called⟩)⟩

/-- A step of the call with a number; if there is none, nothing happens. -/
def step (s : Crowd) (i : Nat) : Crowd :=
  match s.calls[i]? with
  | none => s
  | some call =>
    let (stage, press) := s.press.turn call
    ⟨press, s.calls.set i { call with stage }⟩

/-- Steps of the calls with these numbers, one after the other. -/
def run (s : Crowd) (turns : List Nat) : Crowd := turns.foldl step s

/-- What is new in the store after a step. -/
def arrived (s : Crowd) (i : Nat) : List Compiled :=
  (s.step i).press.store.entries.filter fun c => c.source ∉ s.press.store.sources

/-- All that is put into the store by steps, in that order. -/
def arrivals (s : Crowd) : List Nat → List Compiled
  | [] => []
  | i :: rest => s.arrived i ++ (s.step i).arrivals rest

end Crowd

/-! ## One step -/

namespace Press

variable {p : Press} {call : Call}

theorem turn_settings (p : Press) (call : Call) : (p.turn call).2.settings = p.settings := by
  unfold turn
  split
  · split <;> rfl
  · split <;> rfl
  · rfl
  · rfl
  · rfl

/-- A step leaves the store as it is, unless it is the last one of a call whose source the store
does not have; then the template of the call joins what the store has room for. -/
theorem turn_cases (p : Press) (call : Call) :
    (p.turn call).2.store = p.store ∨
      ∃ c, c.source = call.source ∧ (p.turn call).1 = .returned c ∧ p.store.capacity ≠ 0 ∧
        p.store.find? call.source = none ∧
        (p.turn call).2.store = { p.store with entries := p.store.room ++ [c] } := by
  unfold turn
  split
  · split <;> exact .inl rfl
  · split <;> exact .inl rfl
  · rename_i t _
    rcases p.store.insert_cases ⟨p.compiled, call.source, t⟩ with
      ⟨_, same⟩ | ⟨_, kept, _, same⟩ | ⟨keeps, new, same⟩
    · refine .inl ?_
      simp only [put, same]
    · refine .inl ?_
      simp only [put, same]
    · refine .inr ⟨⟨p.compiled, call.source, t⟩, rfl, ?_, keeps, new, ?_⟩ <;>
        simp only [put, same]
  · exact .inl rfl
  · exact .inl rfl

/-- A step of a sound press for a call that fits its source. -/
theorem Sound.turn (h : p.Sound) (fits : call.stage.Fits p.read call.source) :
    (p.turn call).2.Sound ∧ (p.turn call).1.Fits p.read call.source := by
  obtain ⟨source, stage⟩ := call
  cases stage with
  | called =>
    cases found : p.store.find? source with
    | some kept =>
      simp only [Press.turn, found]
      exact ⟨h, Store.Sound.find? h found⟩
    | none =>
      simp only [Press.turn, found]
      exact ⟨h, trivial⟩
  | missed =>
    cases reads : p.read source with
    | ok t =>
      simp only [Press.turn, reads]
      exact ⟨h, reads⟩
    | error r =>
      simp only [Press.turn, reads]
      exact ⟨h, reads⟩
  | read t =>
    have own : p.read source = .ok t := fits
    obtain ⟨sound, same, tree⟩ := Store.Sound.insert (c := ⟨p.compiled, source, t⟩) h own
    exact ⟨sound, same, own.trans (congrArg Except.ok tree.symm)⟩
  | returned c => exact ⟨h, fits⟩
  | rejected r => exact ⟨h, fits⟩

/-- A call returns what the store keeps for its source: what it kept before the step, if anything,
and what it keeps after the step, if it keeps anything at all. -/
theorem Sound.turn_returned {c : Compiled} (h : p.Sound) (ahead : call.stage.ahead ≠ 0)
    (returned : (p.turn call).1 = .returned c) :
    (∀ kept, p.store.find? call.source = some kept → c = kept) ∧
      (p.store.capacity ≠ 0 → (p.turn call).2.store.find? call.source = some c) := by
  obtain ⟨source, stage⟩ := call
  cases stage with
  | called =>
    cases found : p.store.find? source with
    | some kept =>
      simp only [Press.turn, found] at returned ⊢
      cases returned
      exact ⟨fun _ same => Option.some.inj same, fun _ => rfl⟩
    | none =>
      simp only [Press.turn, found] at returned
      cases returned
  | missed =>
    cases reads : p.read source with
    | ok t =>
      simp only [Press.turn, reads] at returned
      cases returned
    | error r =>
      simp only [Press.turn, reads] at returned
      cases returned
  | read t =>
    simp only [Press.turn, put] at returned ⊢
    cases returned
    rcases p.store.insert_cases ⟨p.compiled, source, t⟩ with
      ⟨zero, same⟩ | ⟨_, kept, found, same⟩ | ⟨keeps, new, same⟩
    · refine ⟨fun kept found => ?_, fun keeps => absurd zero keeps⟩
      rw [Store.Sound.find?_of_zero h zero] at found
      cases found
    · rw [same]
      exact ⟨fun other present => Option.some.inj (found.symm.trans present), fun _ => found⟩
    · obtain ⟨own, stored⟩ := Store.find?_insert new
      refine ⟨fun kept found => ?_, fun _ => ?_⟩
      · rw [new] at found
        cases found
      · rw [own, stored, if_neg keeps]
  | returned _ => exact absurd rfl ahead
  | rejected _ => exact absurd rfl ahead

theorem ahead_turn (p : Press) (call : Call) :
    (p.turn call).1.ahead ≤ call.stage.ahead - 1 := by
  obtain ⟨source, stage⟩ := call
  cases stage with
  | called =>
    simp only [turn]
    split <;> simp [Stage.ahead]
  | missed =>
    simp only [turn]
    split <;> simp [Stage.ahead]
  | _ => simp [turn, Stage.ahead]

end Press

/-! ## Any steps -/

namespace Crowd

variable {p : Press} {sources : List String} {s : Crowd} {call : Call} {i : Nat}

theorem step_of_getElem? (h : s.calls[i]? = some call) :
    s.step i = ⟨(s.press.turn call).2, s.calls.set i ⟨call.source, (s.press.turn call).1⟩⟩ := by
  unfold step
  rw [h]

theorem step_of_none (h : s.calls[i]? = none) : s.step i = s := by
  unfold step
  rw [h]

/-- A call that nobody disturbs does what compiling its source does. -/
theorem run_alone (p : Press) (source : String) :
    ∃ stage, (gather p [source]).run [0, 0, 0] = ⟨(p.compile source).2, [⟨source, stage⟩]⟩ ∧
      (∀ c, (p.compile source).1 = .ok c ↔ stage = .returned c) ∧
      ∀ r, (p.compile source).1 = .error r ↔ stage = .rejected r := by
  cases found : p.store.find? source with
  | some kept =>
    refine ⟨.returned kept, ?_, ?_, ?_⟩ <;>
      simp [run, gather, step, Press.turn, found, Press.compile]
  | none =>
    cases reads : p.read source with
    | error r =>
      refine ⟨.rejected r, ?_, ?_, ?_⟩ <;>
        simp [run, gather, step, Press.turn, found, reads, Press.compile]
    | ok t =>
      refine ⟨.returned (p.put source t).1, ?_, ?_, ?_⟩ <;>
        simp [run, gather, step, Press.turn, found, reads, Press.compile, Press.put]

/-- What holds of calls for sources on a press, however far they have come. -/
structure Orderly (p : Press) (sources : List String) (s : Crowd) : Prop where
  sound : s.press.Sound
  settings : s.press.settings = p.settings
  capacity : s.press.store.capacity = p.store.capacity
  sources : s.calls.map (·.source) = sources
  fits : ∀ call ∈ s.calls, call.stage.Fits p.read call.source

theorem orderly_gather (h : p.Sound) (sources : List String) :
    Orderly p sources (gather p sources) where
  sound := h
  settings := rfl
  capacity := rfl
  sources := by simp [gather, Function.comp_def]
  fits := by simp [gather, Stage.Fits]

namespace Orderly

theorem read (h : Orderly p sources s) : s.press.read = p.read := by
  unfold Press.read
  rw [h.settings]

theorem fits_of_getElem? (h : Orderly p sources s) (hc : s.calls[i]? = some call) :
    call.stage.Fits s.press.read call.source :=
  h.read ▸ h.fits call (List.mem_of_getElem? hc)

/-- The store after a step: the same one, or one with a template for a new source. -/
theorem store_step (h : Orderly p sources s) (i : Nat) :
    (s.step i).press.store = s.press.store ∨
      ∃ c, c.source ∉ s.press.store.sources ∧ s.press.store.capacity ≠ 0 ∧
        (s.step i).press.store =
          { s.press.store with entries := s.press.store.room ++ [c] } ∧
        p.read c.source = .ok c.template := by
  cases hc : s.calls[i]? with
  | none => exact .inl (congrArg (·.press.store) (step_of_none hc))
  | some call =>
    have fits := (h.sound.turn (h.fits_of_getElem? hc)).2
    rw [step_of_getElem? hc]
    rcases s.press.turn_cases call with same | ⟨c, own, returned, keeps, new, same⟩
    · exact .inl same
    · rw [returned, h.read] at fits
      refine .inr ⟨c, ?_, keeps, same, own ▸ fits.2⟩
      rw [own]
      exact Store.find?_eq_none_iff.1 new

theorem step (h : Orderly p sources s) (i : Nat) : Orderly p sources (s.step i) := by
  cases hc : s.calls[i]? with
  | none => rwa [step_of_none hc]
  | some call =>
    obtain ⟨sound, fits⟩ := h.sound.turn (h.fits_of_getElem? hc)
    have capacity : (s.step i).press.store.capacity = s.press.store.capacity := by
      rcases h.store_step i with same | ⟨c, _, _, same, _⟩ <;> rw [same]
    rw [step_of_getElem? hc] at capacity ⊢
    refine ⟨sound, (s.press.turn_settings call).trans h.settings, capacity.trans h.capacity, ?_, ?_⟩
    · rw [← h.sources, List.map_set]
      refine List.ext_getElem? fun j => ?_
      rw [List.getElem?_set, List.getElem?_map]
      split
      · rename_i same
        obtain ⟨there, rfl⟩ := List.getElem?_eq_some_iff.1 hc
        simp [← same, there]
      · rfl
    · intro other member
      rcases List.mem_or_eq_of_mem_set member with member | rfl
      · exact h.fits other member
      · exact h.read ▸ fits

theorem run (h : Orderly p sources s) (turns : List Nat) : Orderly p sources (s.run turns) := by
  induction turns generalizing s with
  | nil => exact h
  | cons i rest ih => exact ih (h.step i)

/-- What a step adds to the store stands behind what it leaves there. -/
theorem entries_step (h : Orderly p sources s) (i : Nat) :
    (s.step i).press.store.entries <:+ s.press.store.entries ++ s.arrived i := by
  have old : ∀ l : List Compiled, l <:+ s.press.store.entries →
      l.filter (fun c => decide (c.source ∉ s.press.store.sources)) = [] := by
    intro l own
    refine List.filter_eq_nil_iff.2 fun c hc => ?_
    have kept : c.source ∈ s.press.store.sources := List.mem_map_of_mem (own.subset hc)
    simpa using kept
  rcases h.store_step i with same | ⟨c, new, _, same, _⟩
  · rw [arrived, same, old _ List.suffix_rfl, List.append_nil]
  · have arrived : s.arrived i = [c] := by
      rw [Crowd.arrived, same, List.filter_append, old _ s.press.store.room_isSuffix]
      simpa using new
    obtain ⟨gone, whole⟩ := s.press.store.room_isSuffix
    rw [arrived, same]
    exact ⟨gone, by rw [← whole, List.append_assoc]⟩

theorem entries_run (h : Orderly p sources s) (turns : List Nat) :
    (s.run turns).press.store.entries <:+ s.press.store.entries ++ s.arrivals turns := by
  induction turns generalizing s with
  | nil =>
    show s.press.store.entries <:+ s.press.store.entries ++ []
    exact ⟨[], by simp⟩
  | cons i rest ih =>
    obtain ⟨gone, whole⟩ := h.entries_step i
    obtain ⟨gone', whole'⟩ := ih (h.step i)
    refine ⟨gone ++ gone', ?_⟩
    show gone ++ gone' ++ ((s.step i).run rest).press.store.entries = _
    rw [List.append_assoc, whole', ← List.append_assoc, whole, List.append_assoc]
    rfl

/-- A step evicts at most the oldest template, and only from a full store. -/
theorem evicts_oldest (h : Orderly p sources s) (i : Nat) :
    (s.step i).press.store.entries = s.press.store.entries ∨
      ∃ c, c.source ∉ s.press.store.sources ∧
        ((s.press.store.entries.length < s.press.store.capacity ∧
          (s.step i).press.store.entries = s.press.store.entries ++ [c]) ∨
        (s.press.store.entries.length = s.press.store.capacity ∧ ∃ oldest rest,
          s.press.store.entries = oldest :: rest ∧
          (s.step i).press.store.entries = rest ++ [c])) := by
  rcases h.store_step i with same | ⟨c, new, keeps, same, _⟩
  · exact .inl (congrArg (·.entries) same)
  · refine .inr ⟨c, new, ?_⟩
    have bounded := h.sound.bounded
    rw [same]
    rcases Nat.lt_or_ge s.press.store.entries.length s.press.store.capacity with free | full
    · refine .inl ⟨free, ?_⟩
      rw [Store.room_of_not_full free]
    · refine .inr ⟨Nat.le_antisymm bounded full, ?_⟩
      cases entries : s.press.store.entries with
      | nil =>
        rw [entries] at full
        exact absurd (Nat.le_zero.1 full) keeps
      | cons oldest rest =>
        refine ⟨oldest, rest, rfl, ?_⟩
        rw [Store.room_of_full full, entries]
        rfl

end Orderly

/-- How many steps the call with a number takes at most before it ends. -/
def ahead (s : Crowd) (i : Nat) : Nat := (s.calls[i]?.map (·.stage.ahead)).getD 0

theorem ahead_step (s : Crowd) (i j : Nat) :
    (s.step j).ahead i ≤ s.ahead i - if j = i then 1 else 0 := by
  cases hc : s.calls[j]? with
  | none =>
    rw [step_of_none hc]
    split
    · rename_i same
      simp [ahead, ← same, hc]
    · exact Nat.le_refl _
  | some call =>
    rw [step_of_getElem? hc, ahead, ahead, List.getElem?_set]
    split
    · rename_i same
      have there : j < s.calls.length := (List.getElem?_eq_some_iff.1 hc).1
      rw [if_pos there, ← same, hc]
      exact s.press.ahead_turn call
    · exact Nat.le_refl _

theorem ahead_run (s : Crowd) (turns : List Nat) (i : Nat) :
    (s.run turns).ahead i ≤ s.ahead i - turns.count i := by
  induction turns generalizing s with
  | nil => exact Nat.le_refl _
  | cons j rest ih =>
    have first := s.ahead_step i j
    have later := ih (s.step j)
    have counts : (j :: rest).count i = rest.count i + if j = i then 1 else 0 := by
      simp [List.count_cons]
    rw [counts]
    show ((s.step j).run rest).ahead i ≤ _
    omega

theorem ahead_gather (p : Press) (sources : List String) (i : Nat) :
    (gather p sources).ahead i ≤ 3 := by
  unfold ahead gather
  rw [List.getElem?_map]
  cases sources[i]? with
  | none => exact Nat.zero_le _
  | some source => exact Nat.le_refl _

/-- Whatever callers have sources compiled at the same time, and in whatever order their steps come:
the store is within its bounds, has each source once, and has for it the tree that is read from it;
its templates are the latest of those that were put into it, in that order. A step adds at most
one template, for a new source, and evicts the oldest one only to make room for it. A call whose
source is no template never changes the store. A call that returns has a template for its own
source with the tree that is read from it, and it is the one that the store has, if another call
was first. Each call ends after three steps of its own. -/
theorem store_survives_crowds {p : Press} (made : p.Made) (sources : List String)
    (turns : List Nat) (s : Crowd) (reached : s = (gather p sources).run turns) :
    s.press.store.entries.length ≤ p.settings.cacheSize ∧
    s.press.store.sources.Nodup ∧
    (∀ c ∈ s.press.store.entries, p.read c.source = .ok c.template) ∧
    s.press.store.entries <:+ p.store.entries ++ (gather p sources).arrivals turns ∧
    (∀ i, (s.step i).press.store.entries = s.press.store.entries ∨
      ∃ c, c.source ∉ s.press.store.sources ∧
        ((s.press.store.entries.length < p.settings.cacheSize ∧
          (s.step i).press.store.entries = s.press.store.entries ++ [c]) ∨
        (s.press.store.entries.length = p.settings.cacheSize ∧ ∃ oldest rest,
          s.press.store.entries = oldest :: rest ∧
          (s.step i).press.store.entries = rest ++ [c]))) ∧
    s.calls.map (·.source) = sources ∧
    ∀ i call, s.calls[i]? = some call →
      (3 ≤ turns.count i → call.stage.ahead = 0) ∧
      (∀ r, call.stage = .rejected r → p.read call.source = .error r) ∧
      (∀ c, call.stage = .returned c → c.source = call.source ∧
        p.read call.source = .ok c.template) ∧
      (∀ r, p.read call.source = .error r → (s.step i).press.store = s.press.store) ∧
      (call.stage.ahead ≠ 0 → ∀ c, (s.step i).calls[i]? = some ⟨call.source, .returned c⟩ →
        (∀ kept, s.press.store.find? call.source = some kept → c = kept) ∧
        (p.settings.cacheSize ≠ 0 →
          (s.step i).press.store.find? call.source = some c)) := by
  have gathered := orderly_gather made.sound sources
  have orderly : Orderly p sources s := reached ▸ gathered.run turns
  have capacity : s.press.store.capacity = p.settings.cacheSize :=
    orderly.capacity.trans made.capacity
  rw [← capacity]
  refine ⟨orderly.sound.bounded, orderly.sound.distinct, ?_, ?_, orderly.evicts_oldest,
    orderly.sources, fun i call hc => ?_⟩
  · rw [← orderly.read]
    exact orderly.sound.faithful
  · rw [reached]
    exact gathered.entries_run turns
  · have fits := orderly.fits_of_getElem? hc
    rw [orderly.read] at fits
    refine ⟨fun own => ?_, ?_, ?_, ?_, ?_⟩
    · have few := ahead_run (gather p sources) turns i
      have most := ahead_gather p sources i
      rw [← reached, ahead, hc] at few
      simp only [Option.map_some, Option.getD_some] at few
      omega
    · rintro r stage
      rwa [stage] at fits
    · rintro c stage
      rwa [stage] at fits
    · intro r rejected
      have after := (orderly.sound.turn (orderly.fits_of_getElem? hc)).2
      rw [step_of_getElem? hc]
      rcases s.press.turn_cases call with same | ⟨c, _, returned, _, _, _⟩
      · exact same
      · rw [returned, orderly.read] at after
        have reads := after.2
        rw [rejected] at reads
        cases reads
    · intro notEnded c returned
      have there : i < s.calls.length := (List.getElem?_eq_some_iff.1 hc).1
      rw [step_of_getElem? hc] at returned ⊢
      simp only [List.getElem?_set_self there, Option.some.injEq, Call.mk.injEq, true_and]
        at returned
      exact orderly.sound.turn_returned notEnded returned

/-- Two calls for one source and a call for another one, on a press with room for one template: both
calls for the first source have read it before one of them puts its template into the store. -/
def pair : Crowd :=
  (gather (.start { standardLibrary := false, cacheSize := 1 }) ["a", "a", "b"]).run [0, 1, 0, 1, 1]

theorem store_survives_crowds_pair :
    Press.Made (.start { standardLibrary := false, cacheSize := 1 }) ∧
      pair.press.store.entries = [⟨0, "a", [.text "a"]⟩] ∧
      (pair.step 0).calls[0]? = some ⟨"a", .returned ⟨0, "a", [.text "a"]⟩⟩ ∧
      (pair.step 0).press.store.find? "a" = some ⟨0, "a", [.text "a"]⟩ ∧
      (pair.run [2, 2]).press.store.sources = ["a"] ∧
      ((pair.run [2, 2]).step 2).press.store.sources = ["b"] := by
  have made : Press.Made (.start { standardLibrary := false, cacheSize := 1 }) := .start _
  obtain ⟨_, _, _, _, _, _, calls⟩ := store_survives_crowds made ["a", "a", "b"] [0, 1, 0, 1, 1]
    pair rfl
  have returned : (pair.step 0).calls[0]? = some ⟨"a", .returned ⟨0, "a", [.text "a"]⟩⟩ := by cbv
  have waiting : pair.calls[0]? = some ⟨"a", .read [.text "a"]⟩ := by cbv
  obtain ⟨_, _, _, _, same⟩ := calls 0 _ waiting
  exact ⟨made, by cbv, returned, (same (by decide) _ returned).2 (by decide), by cbv, by cbv⟩

end Crowd

end Stencil
