-- The stores of presses. A press puts a template into its store under its own source, with the tree
-- that it has just read. So the store is a row of different sources, no longer than its capacity
-- and oldest first, each with the tree that reading it gives.
import Mathlib
import Stencil.Press

namespace Stencil

/-- What a caller can see of a compiled template. -/
def Compiled.view (c : Compiled) : String × Template := (c.source, c.template)

/-! ## Putting templates into a store -/

namespace Store

variable {s : Store} {c kept : Compiled} {source : String}

theorem mem_of_find? (h : s.find? source = some c) : c ∈ s.entries := List.mem_of_find?_eq_some h

theorem source_of_find? (h : s.find? source = some c) : c.source = source := by
  simpa using List.find?_some h

theorem find?_eq_none_iff : s.find? source = none ↔ source ∉ s.sources := by
  simp [find?, sources, List.find?_eq_none]

theorem room_isSuffix (s : Store) : s.room <:+ s.entries := by
  unfold room
  split
  · exact List.tail_suffix _
  · exact List.suffix_rfl

theorem room_of_full (h : s.capacity ≤ s.entries.length) : s.room = s.entries.tail := if_pos h

theorem room_of_not_full (h : s.entries.length < s.capacity) : s.room = s.entries :=
  if_neg (by omega)

/-- A store that keeps nothing stays as it is, and so does one that has the source already; any
other one gets the new template as its last one. -/
theorem insert_cases (s : Store) (c : Compiled) :
    (s.capacity = 0 ∧ s.insert c = (c, s)) ∨
    (s.capacity ≠ 0 ∧ ∃ kept, s.find? c.source = some kept ∧ s.insert c = (kept, s)) ∨
    (s.capacity ≠ 0 ∧ s.find? c.source = none ∧
      s.insert c = (c, { s with entries := s.room ++ [c] })) := by
  unfold insert
  split
  · exact .inl ⟨‹_›, rfl⟩
  · rename_i keeps
    cases found : s.find? c.source with
    | some kept => exact .inr (.inl ⟨keeps, kept, rfl, rfl⟩)
    | none => exact .inr (.inr ⟨keeps, rfl, rfl⟩)

theorem capacity_insert (s : Store) (c : Compiled) : (s.insert c).2.capacity = s.capacity := by
  rcases s.insert_cases c with ⟨_, same⟩ | ⟨_, kept, _, same⟩ | ⟨_, _, same⟩ <;> rw [same]

/-- A template that is put into a store can be found there, unless the store keeps nothing. -/
theorem find?_insert (new : s.find? c.source = none) :
    (s.insert c).1 = c ∧
      (s.insert c).2.find? c.source = if s.capacity = 0 then none else some c := by
  rcases s.insert_cases c with ⟨zero, same⟩ | ⟨_, kept, found, _⟩ | ⟨keeps, _, same⟩
  · rw [same, if_pos zero]
    exact ⟨rfl, new⟩
  · rw [new] at found
    cases found
  · rw [same, if_neg keeps]
    have room : ∀ k ∈ s.room, ¬ decide (k.source = c.source) = true := fun k hk =>
      List.find?_eq_none.1 new k (s.room_isSuffix.subset hk)
    refine ⟨rfl, ?_⟩
    show List.find? _ (s.room ++ [c]) = _
    rw [List.find?_append, List.find?_eq_none.2 room]
    simp

/-- What a store always is: a row of different sources, no longer than its capacity, each with the
tree that reading it gives. -/
structure Sound (read : String → Except Template.Rejection Template) (s : Store) : Prop where
  bounded : s.entries.length ≤ s.capacity
  distinct : s.sources.Nodup
  faithful : ∀ c ∈ s.entries, read c.source = .ok c.template

variable {read : String → Except Template.Rejection Template}

theorem sound_empty (capacity : Nat) : Sound read (.empty capacity) where
  bounded := Nat.zero_le _
  distinct := List.nodup_nil
  faithful := by simp [empty]

theorem Sound.find? (h : Sound read s) (found : s.find? source = some c) :
    c.source = source ∧ read source = .ok c.template := by
  have own := source_of_find? found
  exact ⟨own, own ▸ h.faithful c (mem_of_find? found)⟩

/-- A store without capacity has nothing. -/
theorem Sound.find?_of_zero (h : Sound read s) (zero : s.capacity = 0) (source : String) :
    s.find? source = none := by
  have none : s.entries = [] := List.length_eq_zero_iff.1 (by have := h.bounded; omega)
  unfold Store.find?
  rw [none]
  rfl

/-- A template with its own tree is put into a store, and the caller gets one for the same source.
-/
theorem Sound.insert (h : Sound read s) (hc : read c.source = .ok c.template) :
    Sound read (s.insert c).2 ∧ (s.insert c).1.source = c.source ∧
      (s.insert c).1.template = c.template := by
  rcases s.insert_cases c with ⟨_, same⟩ | ⟨_, kept, found, same⟩ | ⟨keeps, new, same⟩ <;> rw [same]
  · exact ⟨h, rfl, rfl⟩
  · obtain ⟨own, tree⟩ := h.find? found
    exact ⟨h, own, Except.ok.inj (tree.symm.trans hc)⟩
  · have fits : s.room.length < s.capacity := by
      have bounded := h.bounded
      unfold room
      split
      · rw [List.length_tail]
        omega
      · omega
    have own : s.room.map (·.source) <:+ s.sources := s.room_isSuffix.map _
    refine ⟨⟨?_, ?_, ?_⟩, rfl, rfl⟩
    · simpa using fits
    · show (List.map _ (s.room ++ [c])).Nodup
      rw [List.map_append, List.nodup_append_comm]
      refine List.nodup_cons.2 ⟨?_, h.distinct.sublist own.sublist⟩
      exact fun mem => find?_eq_none_iff.1 new (own.subset mem)
    · intro k hk
      rcases List.mem_append.1 hk with hk | hk
      · exact h.faithful k (s.room_isSuffix.subset hk)
      · exact List.mem_singleton.1 hk ▸ hc

end Store

/-! ## Compiling -/

namespace Press

variable {p q : Press} {source : String} {t : Template}

theorem settings_compile (p : Press) (source : String) :
    (p.compile source).2.settings = p.settings := by
  unfold compile
  split
  · rfl
  · split <;> rfl

theorem filters_compile (p : Press) (source : String) :
    (p.compile source).2.filters = p.filters := by
  unfold compile
  split
  · rfl
  · split <;> rfl

theorem capacity_compile (p : Press) (source : String) :
    (p.compile source).2.store.capacity = p.store.capacity := by
  unfold compile
  split
  · rfl
  · split
    · rfl
    · exact Store.capacity_insert _ _

theorem read_compile (p : Press) (source : String) : (p.compile source).2.read = p.read := by
  unfold read
  rw [p.settings_compile]

theorem compile_of_find {c : Compiled} (h : p.store.find? source = some c) :
    p.compile source = (.ok c, p) := by
  unfold compile
  rw [h]

theorem compile_of_read (h : p.store.find? source = none) (ht : p.read source = .ok t) :
    p.compile source =
      (.ok ⟨p.compiled, source, t⟩,
        { p with
          store := (p.store.insert ⟨p.compiled, source, t⟩).2, compiled := p.compiled + 1 }) := by
  have same := (Store.find?_insert (c := ⟨p.compiled, source, t⟩) h).1
  unfold compile
  rw [h, ht]
  simp only [same]

theorem compile_of_rejected {r : Template.Rejection} (h : p.store.find? source = none)
    (hr : p.read source = .error r) : p.compile source = (.error r, p) := by
  unfold compile
  rw [h, hr]

/-- A run with the template for a source leaves the press that compiling the source leaves. -/
theorem withCompiled_press {σ α : Type} (p : Press) (source : String)
    (f : Press → Compiled → Run σ α) : (p.withCompiled source f).2 = (p.compile source).2 := by
  unfold withCompiled
  rcases p.compile source with ⟨r | c, q⟩ <;> rfl

/-- So does a check, unless the source is blank. -/
theorem check_press (p : Press) (source : String) :
    (p.check source).2 = p ∨ (p.check source).2 = (p.compile source).2 := by
  unfold check
  split
  · exact .inl rfl
  · rcases p.compile source with ⟨r | c, q⟩ <;> exact .inr rfl

/-! ## Presses -/

/-- A press that keeps nothing but what it would read. -/
def Sound (p : Press) : Prop := p.store.Sound p.read

theorem sound_start (settings : Settings) : (start settings).Sound := Store.sound_empty _

/-- What registering changes. -/
theorem exists_of_register {name : String} {value : Value} (h : p.register name value = .ok q) :
    ∃ found, asFilters value = .ok found ∧ q = { p with filters := p.filters.put name found } := by
  unfold register at h
  cases found : asFilters value with
  | error error =>
    rw [found] at h
    cases h
  | ok found' =>
    rw [found] at h
    cases h
    exact ⟨_, rfl, rfl⟩

theorem Sound.register (h : p.Sound) {name : String} {value : Value}
    (registered : p.register name value = .ok q) : q.Sound := by
  obtain ⟨found, _, rfl⟩ := exists_of_register registered
  exact h

/-- A sound press compiles a source to the tree that it reads. -/
theorem Sound.compile (h : p.Sound) (source : String) :
    (p.compile source).2.Sound ∧
      (p.compile source).1.map Compiled.view = (p.read source).map fun t => (source, t) := by
  cases found : p.store.find? source with
  | some c =>
    obtain ⟨own, tree⟩ := Store.Sound.find? h found
    rw [compile_of_find found, tree]
    exact ⟨h, by rw [← own]; rfl⟩
  | none =>
    cases reads : p.read source with
    | error r =>
      rw [compile_of_rejected found reads]
      exact ⟨h, rfl⟩
    | ok t =>
      rw [compile_of_read found reads]
      exact ⟨(Store.Sound.insert (c := ⟨p.compiled, source, t⟩) h reads).1, rfl⟩

theorem Sound.of_compile (h : p.Sound) {c : Compiled} (compiled : (p.compile source).1 = .ok c) :
    c.source = source ∧ p.read source = .ok c.template := by
  have view := (h.compile source).2
  rw [compiled] at view
  cases reads : p.read source with
  | error r =>
    rw [reads] at view
    cases view
  | ok t =>
    rw [reads] at view
    obtain ⟨own, tree⟩ := Prod.mk.inj (Except.ok.inj view)
    exact ⟨own, congrArg Except.ok tree.symm⟩

theorem Sound.exists_compile (h : p.Sound) (reads : p.read source = .ok t) :
    ∃ c, (p.compile source).1 = .ok c ∧ c.view = (source, t) := by
  have view := (h.compile source).2
  rw [reads] at view
  cases compiled : (p.compile source).1 with
  | error r =>
    rw [compiled] at view
    cases view
  | ok c =>
    rw [compiled] at view
    exact ⟨c, rfl, Except.ok.inj view⟩

/-- The presses there are: one is started with its settings, and then filters are put into it and
sources are compiled. -/
inductive Made : Press → Prop
  | start (settings : Settings) : Made (.start settings)
  | register {p q : Press} {name : String} {value : Value} :
    Made p → p.register name value = .ok q → Made q
  | compile {p : Press} (source : String) : Made p → Made (p.compile source).2

theorem Made.sound (h : p.Made) : p.Sound := by
  induction h with
  | start settings => exact sound_start settings
  | register _ registered ih => exact ih.register registered
  | compile source _ ih => exact (ih.compile source).1

/-- The store of a press has the size that its settings say. -/
theorem Made.capacity (h : p.Made) : p.store.capacity = p.settings.cacheSize := by
  induction h with
  | start settings => rfl
  | register _ registered ih =>
    obtain ⟨found, _, rfl⟩ := exists_of_register registered
    exact ih
  | @compile p source _ ih =>
    rw [p.settings_compile, p.capacity_compile, ih]

theorem made_foldlM {filters : Filters} (h : p.Made)
    (all : filters.foldlM (fun p (name, value) => p.register name value) p = .ok q) : q.Made := by
  induction filters generalizing p with
  | nil =>
    cases all
    exact h
  | cons f rest ih =>
    obtain ⟨name, value⟩ := f
    simp only [List.foldlM_cons] at all
    cases registered : p.register name value with
    | error error =>
      rw [registered] at all
      cases all
    | ok p' =>
      rw [registered] at all
      exact ih (h.register registered) all

theorem made_create {settings : Settings} {filters : Filters}
    (h : create settings filters = .ok p) : p.Made :=
  made_foldlM (.start settings) h

end Press

end Stencil
