-- Which errors leave a rendering. What a function or a renderable raises becomes a fault on its
-- way, so an error of the host leaves only where nothing stands around that makes a fault of it:
-- where a key looks like a number and is none, where a value raises something that is asked for a
-- key or for its truth or is written, and where a stream raises something while it is gone through.
import Stencil.Proofs.Batches
import Stencil.Proofs.Visits

namespace Stencil

/-! ## What values raise -/

/-- The error for a key that looks like a number and is none, or is one that is too long. -/
inductive HostError.OfNumeral (key : String) : HostError → Prop
  | malformed : Text.Numeral.read key.toList = .malformed → OfNumeral key (.malformedNumeral 10 key)
  | oversized {digits : Nat} : Text.Numeral.read key.toList = .oversized digits →
    OfNumeral key (.oversizedNumeral digits)

namespace Value

/-- The attributes of a value that raise an error. -/
def raising : Value → List (String × HostError)
  | .object traits _ => traits.raising
  | .collection traits .. => traits.raising
  | _ => []

variable {v : Value} {key : String} {error : HostError}

theorem mem_raising_of_ownAttribute {raising : List (String × HostError)}
    {attributes : List (String × Value)}
    (h : ownAttribute raising attributes key = .error error) : (key, error) ∈ raising := by
  unfold ownAttribute at h
  split at h
  · rename_i found raised
    cases h
    split at raised
    · cases raised
    · obtain ⟨before, after, rfl, _⟩ := List.lookup_eq_some_iff.1 raised
      exact List.mem_append_right _ List.mem_cons_self
  · cases h

/-- A look-up fails for a key that looks like a number, for a sequence with too many items to be
counted, and for an attribute that raises an error. -/
theorem of_lookup_error (h : v.lookup key = .error error) : error.OfNumeral key ∨
    (v.isCountable = false ∧ error = .uncountable) ∨ (key, error) ∈ v.raising := by
  have sequence {size : Nat} {byNumber : Int → Option Value} {other : Except HostError Value}
      (h : ofSequence size byNumber other key = .error error) : error.OfNumeral key ∨
        (decide (size ≤ longestSequence) = false ∧ error = .uncountable) ∨
          other = .error error := by
    unfold ofSequence at h
    split at h
    · cases h
    · rename_i malformed
      cases h
      exact .inl (.malformed malformed)
    · rename_i digits oversized
      cases h
      exact .inl (.oversized oversized)
    · split at h
      · split at h
        · cases h
        · rename_i long
          cases h
          exact .inr (.inl ⟨decide_eq_false long, rfl⟩)
      · exact .inr (.inr h)
  cases v with
  | list items | tuple items | range start stop step =>
    exact (sequence h).imp_right (Or.imp_right fun none => nomatch none)
  | collection traits items attributes =>
    simp only [lookup] at h
    split at h
    · exact (sequence h).imp_right (Or.imp_right mem_raising_of_ownAttribute)
    · exact .inr (.inr (mem_raising_of_ownAttribute h))
  | object traits attributes => exact .inr (.inr (mem_raising_of_ownAttribute h))
  | _ => cases h

end Value

theorem Context.exists_scope {c : Context} {name : String} {error : HostError}
    (h : c.lookup name = .error error) : ∃ s ∈ c.scopes, s.value.lookup name = .error error := by
  obtain ⟨scopes⟩ := c
  replace h : lookupIn name scopes = .error error := h
  induction scopes with
  | nil => cases h
  | cons s rest ih =>
    unfold lookupIn at h
    rcases own : s.lookup name with raised | u
    · rw [own] at h
      cases h
      unfold Scope.lookup at own
      rcases found : s.value.lookup name with raised | v
      · rw [found] at own
        cases own
        exact ⟨s, List.mem_cons_self, found⟩
      · rw [found] at own
        cases own
    · rw [own] at h
      replace h : (if u.isMissing then lookupIn name rest else pure u) = .error error := h
      split at h
      · obtain ⟨s', hs, raised⟩ := ih h
        exact ⟨s', List.mem_cons_of_mem _ hs, raised⟩
      · cases h

/-! ## What leaves a task -/

variable {σ : Type}

/-- The errors of the host that leave a task: those of keys that look like numbers, and those that
a value raises which is asked for a key or for its truth, written or gone through outside of
renderables. -/
inductive HostError.Leaves (e : Engine σ) (keys : String → Prop) (start : Task) (w : World σ) :
    HostError → Prop
  | numeral {v : Value} {key : String} {error : HostError} : e.Asks start w v key → keys key →
    error.OfNumeral key → Leaves e keys start w error
  | count {v : Value} {key : String} : e.Asks start w v key → v.isCountable = false →
    Leaves e keys start w .uncountable
  | property {v : Value} {key : String} {error : HostError} : e.Asks start w v key →
    (key, error) ∈ v.raising → Leaves e keys start w error
  | text {v : Value} {error : HostError} : e.WritesOut start w v → v.written = .error error →
    Leaves e keys start w error
  | truth {v : Value} {error : HostError} : e.Weighs start w v → v.truth = .error error →
    Leaves e keys start w error
  | sequence {v : Value} {items : Items} {error : HostError} : e.Renders start w v →
    v.items? = some items → items.ending? = some (.host error) → Leaves e keys start w error

namespace Engine

variable {e : Engine σ} {start : Task} {w : World σ} {keys : String → Prop} {error : HostError}

/-- Nothing leads out of the set of all values. -/
theorem encloses_all (host : Host σ) (keys : String → Prop) :
    host.Encloses (fun _ => True) keys where
  missing := trivial
  null := trivial
  lookup _ _ _ := trivial
  item _ _ _ := trivial
  result _ _ := Run.gives_any _

theorem Asks.leaves {v : Value} {key : String} (asks : e.Asks start w v key) (known : keys key)
    (h : v.lookup key = .error error) : error.Leaves e keys start w := by
  rcases Value.of_lookup_error h with numeral | ⟨long, rfl⟩ | raising
  · exact .numeral asks known numeral
  · exact .count asks long
  · exact .property asks raising

theorem written_of_leaf {v : Value} (h : (leaf v : Run σ Rendering).Fails w (.host error)) :
    v.written = .error error := by
  unfold leaf at h
  split at h
  · exact absurd h Run.not_fails_pure
  · exact absurd h Run.not_fails_pure
  · exact absurd h Run.not_fails_pure
  · exact absurd h Run.not_fails_pure
  · split at h
    · exact absurd h Run.not_fails_pure
    · obtain ⟨raised, found, same⟩ := Run.fails_ofExcept.1 (Run.fails_bind_pure.1 h)
      cases same
      exact found

/-- No other error of the host leaves a task in which no other keys stand. -/
theorem leaves_of_fails (inside : start.Enclosed (fun _ => True) keys)
    (fails : start.Fails e w (.host error)) : error.Leaves e keys start w := by
  obtain ⟨task, w', exposes, _, refuses⟩ := fails_host_iff.1 fails
  have renders {v : Value} (is : task.value? = some v) : e.Renders start w v :=
    ⟨task, w', exposes, is⟩
  have known {v : Value} {key : String} (asks : e.Asks start w v key) : keys key :=
    (asks.enclosed (encloses_all e.host keys) inside).2
  cases refuses with
  | name found =>
    obtain ⟨s, hs, raised⟩ := Context.exists_scope found
    have asks := Asks.scope exposes hs
    exact asks.leaves (known asks) raised
  | key found raised =>
    have asks := Asks.base exposes found
    exact asks.leaves (known asks) raised
  | callee _ fails => rcases fails_callee fails with ⟨_, fault⟩ | ⟨_, fault⟩ <;> cases fault
  | argument _ _ _ _ fails => cases (fails_argument fails).2.2
  | unwritable _ _ fails => exact .text ⟨_, _, _, w', exposes⟩ (written_of_leaf fails)
  | truth asked raised => exact .truth ⟨_, _, _, w', exposes, asked⟩ raised
  | sequence breaks =>
    cases breaks with
    | variableTag items ends | sectionTag _ items ends =>
      exact .sequence (renders rfl) items ends.ending
    | value items ends =>
      exact .sequence (renders rfl) (Value.items?_of_joined items) ends.ending
  | answered _ fails =>
    obtain ⟨f, fault⟩ := exists_fault_of_answered fails
    cases fault

end Engine

/-- The failures that leave a rendering of the template in the context: faults, and the errors of
the host that leave its nodes. -/
inductive Failure.Leaves (e : Engine σ) (t : Template) (c : Context) (w : World σ) : Failure → Prop
  | fault (f : Fault) : Leaves e t c w (.fault f)
  | host {error : HostError} : error.Leaves e t.HasKey (.nodes Engine.deepest t c) w →
    Leaves e t c w (.host error)

namespace Press

/-- A press with one filter of the host, which takes numbers amiss. -/
def shoutingPress : Press :=
  { start { standardLibrary := false } with
    filters := [("shout", .filter (.generic (.host "shout")) [])] }

def shoutingHost : Host Unit :=
  { Host.none with
    call := fun _ _ arguments o =>
      match arguments with
      | [.int _] => (.error (.host (.raised "ValueError" "too loud")), o)
      | _ => (.ok (.text "!"), o) }

def shoutingData : Value := .mapping [(.text "xs", .list [.int 1])]

/-- What a rendering of the tree comes to. -/
inductive Shouted : Value → Prop
  | missing : Shouted .missing
  | null : Shouted .null
  | data : Shouted shoutingData
  | items : Shouted (.list [.int 1])
  | item : Shouted (.int 1)
  | shout : Shouted (.filter (.generic (.host "shout")) [])
  | answer : Shouted (.text "!")

theorem Shouted.lookup {v u : Value} {key : String} (h : Shouted v)
    (hkey : key ∈ ["shout", "xs", "0"]) (found : v.lookup key = .ok u) : Shouted u := by
  have one : (Value.list [.int 1]).lookup "0" = .ok (.int 1) := by cbv
  simp only [List.mem_cons, List.not_mem_nil, or_false] at hkey
  cases h with
  | data =>
    rcases hkey with rfl | rfl | rfl <;> cases found
    · exact .missing
    · exact .items
    · exact .missing
  | items =>
    rcases hkey with rfl | rfl | rfl
    · cases found
      exact .missing
    · cases found
      exact .missing
    · cases one.symm.trans found
      exact .item
  | _ =>
    cases found
    exact .missing

theorem Shouted.encloses : shoutingHost.Encloses Shouted (· ∈ ["shout", "xs", "0"]) where
  missing := .missing
  null := .null
  lookup h key found := h.lookup key found
  item h items hu := by
    cases h with
    | items =>
      cases items
      rw [List.mem_singleton.1 hu]
      exact .item
    | _ => cases items
  result {f captured arguments} hf _ := by
    cases hf
    refine Run.gives_wrap fun w => ?_
    unfold Host.run
    rcases called : shoutingHost.call "shout" [] arguments w.outside with ⟨raised | u, o⟩
    · trivial
    · unfold shoutingHost at called
      dsimp only at called
      split at called <;> cases called
      exact .answer

theorem Shouted.holds {d : Value} (hd : d = shoutingData ∨ d = .null) :
    (shoutingPress.context d []).Holds Shouted := by
  rcases hd with rfl | rfl
  · intro s hs
    rcases List.mem_cons.1 hs with rfl | hs
    · exact ⟨.data, List.forall_mem_nil _⟩
    · rcases List.mem_singleton.1 hs with rfl
      exact ⟨.missing, fun f hf => List.mem_singleton.1 hf ▸ .shout⟩
  · intro s hs
    rcases List.mem_singleton.1 hs with rfl
    exact ⟨.missing, fun f hf => List.mem_singleton.1 hf ▸ .shout⟩

end Press

end Stencil
