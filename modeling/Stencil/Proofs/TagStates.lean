-- How the tags of a run go on. A new tag starts unresolved and moves from state to state; whatever
-- a run does, it only moves tags that are new in it, and it moves them in order. Once a run has
-- ended with a value, all of its tags have been rendered.
import Mathlib.Data.List.Chain
import Stencil.Proofs.Conduct
import Stencil.Proofs.Elsewhere

namespace Stencil

variable {σ : Type}

/-! ## The states of a tag -/

namespace TagState

/-- Whether a tag may move from the first state to the second one. A tag that has been rendered or
has failed stays so. -/
def leads : TagState → TagState → Bool
  | .unresolved, .resolving | .resolving, .resolved | .resolved, .rendering
  | .rendering, .rendered | .resolving, .failed | .resolved, .failed | .rendering, .failed => true
  | _, _ => false

/-- The states through which a tag comes, from its creation on. -/
def IsCourse (states : List TagState) : Prop :=
  states.head? = some .unresolved ∧ states.IsChain (·.leads ·)

theorem isCourse_unresolved : IsCourse [.unresolved] := ⟨rfl, .singleton _⟩

/-- A tag moves on from where it is. -/
theorem IsCourse.concat {states : List TagState} {last next : TagState} (h : IsCourse states)
    (at_last : states.getLast? = some last) (leads : last.leads next = true) :
    IsCourse (states ++ [next]) := by
  constructor
  · rw [List.head?_append, h.1]
    rfl
  · refine List.isChain_append.2 ⟨h.2, .singleton _, ?_⟩
    intro x hx y hy
    rw [at_last] at hx
    cases hx
    cases hy
    exact leads

end TagState

namespace Journal

/-- The states into which moves bring a tag, in order; the moves are given latest first. -/
def course (moves : List (Nat × TagState)) (id : Nat) : List TagState :=
  (moves.reverse.filter (·.1 = id)).map (·.2)

theorem course_append (later earlier : List (Nat × TagState)) (id : Nat) :
    course (later ++ earlier) id = course earlier id ++ course later id := by
  simp [course]

theorem course_cons_self (id : Nat) (state : TagState) (earlier : List (Nat × TagState)) :
    course ((id, state) :: earlier) id = course earlier id ++ [state] := by
  simp [course]

theorem course_cons_of_ne {x id : Nat} (h : x ≠ id) (state : TagState)
    (earlier : List (Nat × TagState)) :
    course ((x, state) :: earlier) id = course earlier id := by
  simp [course, h]

theorem getLast?_course (moves : List (Nat × TagState)) (id : Nat) :
    (course moves id).getLast? = moves.lookup id := by
  induction moves with
  | nil => rfl
  | cons move earlier ih =>
    obtain ⟨x, state⟩ := move
    by_cases h : x = id
    · subst h
      rw [course_cons_self, List.getLast?_concat, List.lookup_cons_self]
    · have other : (id == x) = false := beq_eq_false_iff_ne.2 (Ne.symm h)
      rw [course_cons_of_ne h, ih, List.lookup_cons, other]

/-- A tag is in the last state into which it was brought. -/
theorem stateOf_eq (j : Journal) (id : Nat) :
    j.stateOf id = (course j.moves id).getLast?.getD .unresolved := by
  rw [getLast?_course, stateOf]

end Journal

/-! ## What happens to tags from one world to a later one -/

namespace World

/-- The world with a tag in a new state. -/
def moved (w : World σ) (tag : Tag) (state : TagState) : World σ :=
  { w with journal := w.journal.move tag.id state }

/-- From the first world to the second one the journal has grown by these moves: each new tag has
come through a course of states, and no other tag has moved. -/
structure Adds (w w' : World σ) (moves : List (Nat × TagState)) : Prop where
  created : w.journal.created ≤ w'.journal.created
  grown : w'.journal.moves = moves ++ w.journal.moves
  new : ∀ id, w.journal.created ≤ id → id < w'.journal.created →
    TagState.IsCourse (Journal.course moves id)
  other : ∀ id, id < w.journal.created ∨ w'.journal.created ≤ id → Journal.course moves id = []

/-- From the first world to the second one tags have only moved in order. -/
def Orderly (w w' : World σ) : Prop := ∃ moves, w.Adds w' moves

namespace Orderly

variable {w w₁ w' : World σ}

theorem created_le (h : w.Orderly w') : w.journal.created ≤ w'.journal.created := by
  obtain ⟨moves, h⟩ := h
  exact h.created

theorem of_journal_eq (h : w'.journal = w.journal) : w.Orderly w' := by
  refine ⟨[], Nat.le_of_eq (by rw [h]), by rw [h, List.nil_append], ?_, fun id _ => rfl⟩
  intro id first last
  rw [h] at last
  omega

theorem trans (h : w.Orderly w₁) (h' : w₁.Orderly w') : w.Orderly w' := by
  obtain ⟨earlier, first⟩ := h
  obtain ⟨later, second⟩ := h'
  refine ⟨later ++ earlier, Nat.le_trans first.created second.created, ?_, ?_, ?_⟩
  · rw [second.grown, first.grown, List.append_assoc]
  · intro id new last
    rw [Journal.course_append]
    by_cases before : id < w₁.journal.created
    · rw [second.other id (.inl before), List.append_nil]
      exact first.new id new before
    · rw [first.other id (.inr (Nat.le_of_not_lt before)), List.nil_append]
      exact second.new id (Nat.le_of_not_lt before) last
  · intro id outside
    have lower := first.created
    have upper := second.created
    rw [Journal.course_append, first.other id (by omega), second.other id (by omega)]
    rfl

/-- The tags of before stay in their states. -/
theorem stateOf_eq (h : w.Orderly w') {id : Nat} (old : id < w.journal.created) :
    w'.journal.stateOf id = w.journal.stateOf id := by
  obtain ⟨moves, h⟩ := h
  rw [Journal.stateOf_eq, Journal.stateOf_eq, h.grown, Journal.course_append,
    h.other id (.inl old), List.append_nil]

theorem create (w : World σ) : w.Orderly { w with journal := w.journal.create } := by
  refine ⟨[(w.journal.created, .unresolved)], Nat.le_succ _, rfl, ?_, ?_⟩
  · intro id new last
    obtain rfl : id = w.journal.created := Nat.le_antisymm (Nat.le_of_lt_succ last) new
    rw [Journal.course_cons_self]
    exact TagState.isCourse_unresolved
  · intro id outside
    have lower : w.journal.created ≠ id := by
      rintro rfl
      rcases outside with before | after
      · exact Nat.lt_irrefl _ before
      · exact Nat.not_succ_le_self _ after
    rw [Journal.course_cons_of_ne lower]
    rfl

/-- A new tag moves on from the state in which it is. -/
theorem moved (h : w.Orderly w') {tag : Tag} {state : TagState} (new : w.journal.created ≤ tag.id)
    (last : tag.id < w'.journal.created)
    (leads : (w'.journal.stateOf tag.id).leads state = true) : w.Orderly (w'.moved tag state) := by
  obtain ⟨moves, h⟩ := h
  refine ⟨(tag.id, state) :: moves, h.created, congrArg (_ :: ·) h.grown, ?_, ?_⟩
  · intro id new' last'
    by_cases same : tag.id = id
    · subst same
      have course := h.new tag.id new last
      obtain ⟨at_last, here⟩ : ∃ s, (Journal.course moves tag.id).getLast? = some s := by
        cases empty : (Journal.course moves tag.id).getLast? with
        | none =>
          rw [List.getLast?_eq_none_iff.1 empty] at course
          cases course.1
        | some s => exact ⟨s, rfl⟩
      rw [Journal.stateOf_eq, h.grown, Journal.course_append, List.getLast?_append, here] at leads
      rw [Journal.course_cons_self]
      exact course.concat here leads
    · rw [Journal.course_cons_of_ne same]
      exact h.new id new' last'
  · intro id outside
    have other : tag.id ≠ id := by
      rintro rfl
      rcases outside with before | after
      · exact Nat.lt_irrefl _ (Nat.lt_of_lt_of_le before new)
      · exact Nat.lt_irrefl _ (Nat.lt_of_lt_of_le last after)
    rw [Journal.course_cons_of_ne other]
    exact h.other id outside

end Orderly

/-- Of the tags from one number on, those that were open have failed, and all others have been
rendered. -/
structure Settled (first : Nat) (opened : List Tag) (w : World σ) : Prop where
  new : ∀ tag ∈ opened, first ≤ tag.id ∧ tag.id < w.journal.created
  states : ∀ id, first ≤ id → id < w.journal.created →
    w.journal.stateOf id = if id ∈ opened.map (·.id) then .failed else .rendered

namespace Settled

variable {w w' : World σ} {first : Nat} {opened : List Tag}

theorem none (h : w.journal.created ≤ first) : w.Settled first [] := by
  refine ⟨nofun, ?_⟩
  intro id lower upper
  omega

/-- What is settled later is settled together with what has been rendered before. -/
theorem append (h : w.Settled first []) (lower : first ≤ w.journal.created) (later : w.Orderly w')
    (h' : w'.Settled w.journal.created opened) : w'.Settled first opened := by
  constructor
  · intro tag mem
    obtain ⟨new, last⟩ := h'.new tag mem
    exact ⟨Nat.le_trans lower new, last⟩
  · intro id lower' upper
    by_cases before : id < w.journal.created
    · have rendered := h.states id lower' before
      rw [List.map_nil, if_neg List.not_mem_nil] at rendered
      have others : id ∉ opened.map (·.id) := by
        intro mem
        obtain ⟨tag, member, rfl⟩ := List.mem_map.1 mem
        exact Nat.lt_irrefl _ (Nat.lt_of_lt_of_le before (h'.new tag member).1)
      rw [later.stateOf_eq before, rendered, if_neg others]
    · exact h'.states id (Nat.le_of_not_lt before) upper

end Settled

end World

/-! ## Tags in tidy runs -/

/-- To move tags in order, and to have rendered all new ones at the end. -/
def Conduct.tidy : Conduct σ where
  any := World.Orderly
  done w w' := w.Orderly w' ∧ w'.Settled w.journal.created []
  still h := ⟨.of_journal_eq h, .none (Nat.le_of_eq (by rw [h]))⟩
  any_of_done h := h.1
  trans h h' := h.1.trans h'
  done_trans h h' := ⟨h.1.trans h'.1, h.2.append h.1.created_le h'.1 h'.2⟩

namespace World

variable {w v v' : World σ} {tag : Tag}

/-- The second world comes after the first one, in which the tag is new, and the tag is in a state
now. -/
structure Attends (w v : World σ) (tag : Tag) (state : TagState) : Prop where
  orderly : w.Orderly v
  first : tag.id = w.journal.created
  new : tag.id < v.journal.created
  here : v.journal.stateOf tag.id = state

theorem attends_opened (w : World σ) (head : Head) (form : Form) :
    w.Attends w.opened (w.newTag head form) .resolving := by
  have created : w.journal.created < w.journal.create.created := Nat.lt_succ_self _
  have unresolved : w.journal.create.stateOf w.journal.created = .unresolved := by
    rw [Journal.stateOf_create, if_pos rfl]
  have resolving : w.Orderly w.opened := by
    have leads : (w.journal.create.stateOf (w.newTag head form).id).leads .resolving = true :=
      congrArg (·.leads .resolving) unresolved
    exact (Orderly.create w).moved (Nat.le_refl _) created leads
  refine ⟨resolving, rfl, created, ?_⟩
  exact (Journal.stateOf_move _ _ _ _).trans (if_pos rfl)

namespace Attends

variable {state next : TagState}

/-- What happens to later tags leaves the tag as it is. -/
theorem later (h : w.Attends v tag state) (h' : v.Orderly v') : w.Attends v' tag state :=
  ⟨h.orderly.trans h', h.first, Nat.lt_of_lt_of_le h.new h'.created_le,
    (h'.stateOf_eq h.new).trans h.here⟩

theorem moved (h : w.Attends v tag state) (leads : state.leads next = true) :
    w.Attends (v.moved tag next) tag next := by
  refine ⟨h.orderly.moved (Nat.le_of_eq h.first.symm) h.new ?_, h.first, h.new, ?_⟩
  · rw [h.here]
    exact leads
  · simp [World.moved, Journal.stateOf, Journal.move]

theorem readied (h : w.Attends v tag .resolving) : w.Attends (v.readied tag) tag .rendering := by
  have resolved : w.Attends (v.moved tag .resolved) tag .resolved := h.moved rfl
  exact resolved.moved rfl

/-- When the tag has been rendered after all later ones, all new tags have been rendered. -/
theorem settled (h : w.Attends v tag .rendered) (later : v.Settled (tag.id + 1) []) :
    v.Settled w.journal.created [] := by
  refine ⟨nofun, ?_⟩
  intro id lower upper
  rcases Nat.eq_or_lt_of_le lower with same | after
  · rw [← same, ← h.first, h.here]
    rfl
  · exact later.states id (h.first ▸ after) upper

/-- When the tag has failed, it was open, and so were the later ones that were. -/
theorem settled_failed {opened : List Tag} (h : w.Attends v tag .failed)
    (later : v.Settled (tag.id + 1) opened) : v.Settled w.journal.created (tag :: opened) := by
  constructor
  · intro other mem
    rcases List.mem_cons.1 mem with rfl | mem
    · exact ⟨Nat.le_of_eq h.first.symm, h.new⟩
    · obtain ⟨new, last⟩ := later.new other mem
      exact ⟨h.first ▸ Nat.le_of_succ_le new, last⟩
  · intro id lower upper
    rcases Nat.eq_or_lt_of_le lower with same | after
    · rw [← same, ← h.first, h.here, List.map_cons, if_pos List.mem_cons_self]
    · have other : id ≠ tag.id := by
        rw [h.first]
        exact Nat.ne_of_gt after
      rw [later.states id (h.first ▸ after) upper]
      simp only [List.map_cons, List.mem_cons, other, false_or]

end Attends

theorem Settled.moved {first : Nat} {opened : List Tag} {state : TagState}
    (h : v.Settled first opened) (before : tag.id < first) :
    (v.moved tag state).Settled first opened := by
  refine ⟨h.new, ?_⟩
  intro id lower upper
  have other : id ≠ tag.id := Nat.ne_of_gt (Nat.lt_of_lt_of_le before lower)
  rw [World.moved, Journal.stateOf_move, if_neg other]
  exact h.states id lower upper

end World

/-! ## The engine is tidy -/

namespace World

/-- The world after a failure has left a tag: the tag has failed if a fault has reached it. -/
def left (w : World σ) (tag : Tag) : Failure → World σ
  | .fault _ => w.moved tag .failed
  | .host _ => w

end World

namespace Engine

variable {e : Engine σ} {α : Type} {head : Head} {form : Form} {c : Context}
  {render : Tag → Value → Run σ α} {w w₁ w' : World σ}

/-- How a tag is rendered, step by step. -/
theorem visit_eq (e : Engine σ) (head : Head) (form : Form) (c : Context)
    (render : Tag → Value → Run σ α) (w : World σ) :
    e.visit head form c render w =
      match e.resolve (w.newTag head form) c w.opened with
      | (.done v, w₁) =>
        match render (w.newTag head form) v (w₁.readied (w.newTag head form)) with
        | (.done a, w₂) => (.done a, w₂.moved (w.newTag head form) .rendered)
        | (.failed f, w₂) =>
          (.failed (f.located head.location), w₂.left (w.newTag head form) f)
        | (.exhausted, w₂) => (.exhausted, w₂)
      | (.failed f, w₁) => (.failed (f.located head.location), w₁.left (w.newTag head form) f)
      | (.exhausted, w₁) => (.exhausted, w₁) := by
  rw [visit_apply]
  show Run.onFailure (e.resolve (w.newTag head form) c >>= fun v => do
    move (w.newTag head form) .resolved
    move (w.newTag head form) .rendering
    let answer ← render (w.newTag head form) v
    move (w.newTag head form) .rendered
    return answer) (leave (w.newTag head form)) w.opened = _
  unfold Run.onFailure
  rw [Run.bind_apply]
  rcases e.resolve (w.newTag head form) c w.opened with ⟨v | f | _, w₁⟩
  · have readied : (do
        move (w.newTag head form) .resolved
        move (w.newTag head form) .rendering
        let answer ← render (w.newTag head form) v
        move (w.newTag head form) .rendered
        return answer : Run σ α) w₁ =
      (render (w.newTag head form) v >>= fun answer => do
        move (w.newTag head form) .rendered
        return answer) (w₁.readied (w.newTag head form)) := rfl
    simp only
    rw [readied, Run.bind_apply]
    rcases render (w.newTag head form) v (w₁.readied (w.newTag head form)) with ⟨a | f | _, w₂⟩
    · rfl
    · cases f <;> rfl
    · rfl
  · cases f <;> rfl
  · rfl

theorem visit_eq_done {a : α} : e.visit head form c render w = (.done a, w') ↔
    ∃ v w₁ w₂, e.resolve (w.newTag head form) c w.opened = (.done v, w₁) ∧
      render (w.newTag head form) v (w₁.readied (w.newTag head form)) = (.done a, w₂) ∧
      w' = w₂.moved (w.newTag head form) .rendered := by
  rw [visit_eq]
  constructor
  · intro done
    rcases resolved : e.resolve (w.newTag head form) c w.opened with ⟨v | f | _, w₁⟩
    · rw [resolved] at done
      simp only at done
      rcases rendered : render (w.newTag head form) v (w₁.readied (w.newTag head form)) with
        ⟨b | f | _, w₂⟩ <;> rw [rendered] at done <;> cases done
      exact ⟨v, w₁, w₂, rfl, rendered, rfl⟩
    · rw [resolved] at done
      cases done
    · rw [resolved] at done
      cases done
  · rintro ⟨v, w₁, w₂, resolved, rendered, rfl⟩
    rw [resolved]
    simp only [rendered]

/-- A tag waits for its rendering once its expression is resolved. -/
theorem attends_readied {v : Value}
    (resolved : e.resolve (w.newTag head form) c w.opened = (.done v, w₁)) :
    w.Attends (w₁.readied (w.newTag head form)) (w.newTag head form) .rendering := by
  have orderly := (e.obeys_resolve (p := .tidy) _ c).any_eq resolved
  exact ((w.attends_opened head form).later orderly).readied

/-- The tags behind a tag have come to their ends when those of its rendering have. -/
theorem settled_behind {v : Value} {opened : List Tag}
    (resolved : e.resolve (w.newTag head form) c w.opened = (.done v, w₁))
    (orderly : (w₁.readied (w.newTag head form)).Orderly w')
    (settled : w'.Settled (w₁.readied (w.newTag head form)).journal.created opened) :
    w'.Settled ((w.newTag head form).id + 1) opened := by
  have expression := ((e.obeys_resolve (p := .tidy) _ c).done resolved)
  have readied : (w₁.readied (w.newTag head form)).Settled ((w.newTag head form).id + 1) [] :=
    (expression.2.moved (Nat.lt_succ_self _)).moved (Nat.lt_succ_self _)
  exact readied.append expression.1.created_le orderly settled

theorem orderly_left {tag : Tag} {state : TagState} (h : w.Attends w' tag state)
    (leads : state.leads .failed = true) (f : Failure) : w.Orderly (w'.left tag f) := by
  cases f with
  | fault f => exact (h.moved leads).orderly
  | host error => exact h.orderly

theorem tidy_visit (h : ∀ tag v, (render tag v).Obeys .tidy) :
    (e.visit head form c render).Obeys .tidy := by
  have orderly (w : World σ) : w.Orderly (e.visit head form c render w).2 := by
    rw [visit_eq]
    have opened := w.attends_opened head form
    rcases resolved : e.resolve (w.newTag head form) c w.opened with ⟨v | f | _, w₁⟩
    · simp only
      have readied := attends_readied resolved
      rcases rendered : render (w.newTag head form) v (w₁.readied (w.newTag head form)) with
        ⟨a | f | _, w₂⟩
      · exact ((readied.later ((h _ v).any_eq rendered)).moved rfl).orderly
      · exact orderly_left (readied.later ((h _ v).any_eq rendered)) rfl f
      · exact (readied.later ((h _ v).any_eq rendered)).orderly
    · exact orderly_left (opened.later ((e.obeys_resolve (p := .tidy) _ c).any_eq resolved)) rfl f
    · exact (opened.later ((e.obeys_resolve (p := .tidy) _ c).any_eq resolved)).orderly
  refine ⟨orderly, ?_⟩
  intro w w' a done
  have whole := orderly w
  rw [done] at whole
  refine ⟨whole, ?_⟩
  obtain ⟨v, w₁, w₂, resolved, rendered, rfl⟩ := visit_eq_done.1 done
  obtain ⟨inner, settled⟩ := (h _ v).done rendered
  have attends : w.Attends (w₂.moved (w.newTag head form) .rendered) (w.newTag head form)
      .rendered := ((attends_readied resolved).later inner).moved rfl
  exact attends.settled ((settled_behind resolved inner settled).moved (Nat.lt_succ_self _))

/-- At one depth, the functions of the engine are tidy. -/
structure Tidies (e : Engine σ) (depth : Nat) : Prop where
  nodes : ∀ t c, (e.renderNodes depth t c).Obeys .tidy
  variableTag : ∀ tag v c, (e.renderVariable depth tag v c).Obeys .tidy
  sectionTag : ∀ tag v c, (e.renderSection depth tag v c).Obeys .tidy
  item : ∀ tag v c, (e.renderItem depth tag v c).Obeys .tidy
  value : ∀ tag v c, (e.renderValue depth tag v c).Obeys .tidy

variable {depth : Nat}

theorem Tidies.node (ih : e.Tidies depth) (c : Context) (n : Node) :
    (e.renderNode depth c n).Obeys .tidy := by
  have tag (tag : Tag) (v : Value) : (e.renderTag depth c tag v).Obeys .tidy := by
    unfold renderTag
    split
    · exact ih.variableTag tag v c
    · exact (ih.sectionTag tag v c).map _
  cases n with
  | text s => exact Run.obeys_pure s
  | variableTag head escaped => exact tidy_visit tag
  | sectionTag head inverted children inner => exact tidy_visit tag

theorem Tidies.handlers (ih : e.Tidies depth) (tag : Tag) :
    (e.handlersAt depth tag).Obey .tidy where
  content c := by
    show (contentOf tag (e.renderNodes depth) c).Obeys .tidy
    unfold contentOf
    split
    · exact (ih.nodes _ c).map _
    · exact Run.obeys_pure _
  value v c := by
    show (valueFor tag (e.renderSection depth tag) (e.renderValue depth tag) v c).Obeys .tidy
    unfold valueFor
    split
    · exact (ih.sectionTag tag v c).map _
    · exact ih.value tag v c
  template := ih.nodes
  state := Run.obeys_of_still fun _ => rfl

theorem obeys_finish {p : Conduct σ} {value : Value → Run σ Rendering}
    (h : ∀ v, (value v).Obeys p) (answer : Answer) : (finish value answer).Obeys p := by
  cases answer with
  | rendering r => exact Run.obeys_pure r
  | value v => exact h v

theorem obeys_finishPair {p : Conduct σ} {value : Value → Run σ Rendering}
    (h : ∀ v, (value v).Obeys p) (answer : Answer) : (finishPair value answer).Obeys p := by
  unfold finishPair
  split
  · exact Run.obeys_pure _
  · split
    · exact Run.obeys_pure _
    · exact h _

theorem obeys_answered {p : Conduct σ} (label : String) (answer : Answer) :
    (answered label answer : Run σ Rendering).Obeys p := by
  unfold answered
  split
  · exact Run.obeys_pure _
  · split
    · exact Run.obeys_pure _
    · exact Run.obeys_pure _
    · exact Run.obeys_pure _
    · exact Run.obeys_fail _

theorem obeys_leaf {p : Conduct σ} (v : Value) : (leaf v : Run σ Rendering).Obeys p := by
  unfold leaf
  split
  any_goals exact Run.obeys_pure _
  split
  · exact Run.obeys_pure _
  · exact (Run.obeys_ofExcept _).map _

theorem Tidies.succ_value (ih : e.Tidies depth) (tag : Tag) (v : Value) (c : Context) :
    (e.renderValue (depth + 1) tag v c).Obeys .tidy := by
  rcases items : v.joinedItems? with _ | items
  · by_cases renderable : v.isRenderable = true
    · cases v with
      | eager text safe =>
        rw [renderValue]
        exact Run.obeys_pure _
      | deferred name captured =>
        rw [renderValue]
        refine Run.Obeys.wrap ?_ _
        refine (Script.obeys_run (ih.handlers tag) _).bind ?_
        exact obeys_finishPair fun u => ih.value tag u c
      | pending body captured arguments =>
        rw [renderValue]
        refine Run.Obeys.wrap ?_ _
        refine (Run.obeys_each (fun a => (ih.handlers tag).value a c) _).bind fun rs => ?_
        refine (body.obeys_callTexts captured _).bind fun u => ?_
        exact obeys_finish (fun u => ih.value tag u c) _
      | custom label name captured =>
        rw [renderValue]
        exact ((Script.obeys_run (ih.handlers tag) _).wrap _).bind (obeys_answered label)
      | eachItem item index last key =>
        rw [renderValue]
        refine Run.Obeys.wrap ?_ _
        split
        · exact (ih.handlers tag).content _
        · exact ih.value tag item c
      | _ => simp [Value.isRenderable] at renderable
    · rw [renderValue_leaf _ items (by simpa using renderable)]
      exact obeys_leaf v
  · rw [renderValue_of_items _ items]
    exact (Run.obeys_eachItem (fun u => ih.value tag u c) _).map _

/-- Whatever the engine renders, it moves tags in order, and when it is done it has rendered all
tags that it has created. -/
theorem tidies (e : Engine σ) (depth : Nat) : e.Tidies depth := by
  induction depth with
  | zero => constructor <;> intros <;> exact Run.obeys_exhaust
  | succ depth ih =>
    refine ⟨?_, ?_, ?_, ?_, ih.succ_value⟩
    · intro t c
      rw [renderNodes_succ]
      exact (Run.obeys_each (ih.node c) t).map _
    · intro tag v c
      rw [renderVariable]
      split
      · exact (Run.obeys_eachItem (fun u => ih.variableTag tag u c) _).map _
      · exact (ih.value tag v c).map _
    · intro tag v c
      rw [renderSection]
      split
      · refine (Run.obeys_ofExcept _).bind fun truth => ?_
        split
        · exact Run.obeys_pure _
        · exact (ih.nodes _ c).map _
      · split
        · exact (Run.obeys_eachItem (fun u => ih.item tag u c) _).map _
        · refine (Run.obeys_ofExcept _).bind fun shown => ?_
          split
          · exact ih.item tag v c
          · exact Run.obeys_pure _
    · intro tag v c
      rw [renderItem]
      split
      · exact (ih.value tag v c).map _
      · exact (ih.nodes _ _).map _

end Engine

end Stencil
