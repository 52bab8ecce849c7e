-- Where the failures of a rendering come from. A task fails if and only if there is a reason for
-- it, so a failure can be followed from the outside to where something was raised; what was raised
-- there leaves with at most one wrapper, and with the place of the innermost tag if it has none
-- yet.
import Stencil.Proofs.Tasks

namespace Stencil

variable {σ : Type}

namespace Engine

open Run (Comes ComesToItem ComesToEnd)

/-! ## One step of a failure -/

variable {e : Engine σ} {w w' : World σ} {failure inner : Failure} {depth : Nat} {tag : Tag}
  {c : Context} {v : Value}

theorem renderNode_of_tag {n : Node} {head : Head} {form : Form} (h : n.tag? = some (head, form)) :
    e.renderNode depth c n = e.visit head form c (e.renderTag depth c) := by
  cases n <;> cases h <;> rfl

theorem fails_renderTag : (e.renderTag depth c tag v).Fails w failure ↔
    (Task.ofTag depth tag v c).Fails e w failure := by
  unfold renderTag Task.ofTag Tag.isSection
  cases tag.form with
  | variableTag escaped => exact .rfl
  | sectionTag inverted children inner => exact Run.fails_bind_pure

theorem fails_resolve : (e.resolve tag c).Fails w failure ↔
    (e.evaluator.evaluate c tag.head.expression).Fails w failure ∨
      ∃ v w', e.evaluator.evaluate c tag.head.expression w = (.done v, w') ∧
        (v.isMissing && decide (e.policy = .fail)) = true ∧
        failure = .fault ⟨.unresolved tag.head.expression.text, none⟩ := by
  unfold resolve
  rw [Run.fails_bind]
  refine or_congr_right (exists_congr fun v => exists_congr fun w' => and_congr_right fun _ => ?_)
  split
  · rename_i h
    exact (Run.fails_fail).trans (and_iff_right h).symm
  · rename_i h
    exact iff_of_false Run.not_fails_pure fun h' => h h'.1

theorem fails_value : ((e.handlersAt depth tag).value v c).Fails w failure ↔
    (Task.rendered depth tag v c).Fails e w failure := by
  show (valueFor tag (e.renderSection depth tag) (e.renderValue depth tag) v c).Fails w failure ↔ _
  unfold valueFor Task.rendered
  split
  · exact Run.fails_bind_pure
  · exact .rfl

/-- A script stops where it fails by itself, or where a task fails for which it asks. -/
theorem stops_iff {s : Script σ} :
    s.Stops (e.handlersAt depth tag) w failure ↔
      s = .fail failure ∨
        ∃ task, Task.ofRequest depth tag s = some task ∧ task.Fails e w failure := by
  have asks {s : Script σ} {task : Task} (hs : s ≠ .fail failure)
      (h : Task.ofRequest depth tag s = some task)
      (stops : s.Stops (e.handlersAt depth tag) w failure ↔ task.Fails e w failure) :
      s.Stops (e.handlersAt depth tag) w failure ↔ s = .fail failure ∨
        ∃ task, Task.ofRequest depth tag s = some task ∧ task.Fails e w failure := by
    rw [stops, h]
    simp [hs]
  have silent {s : Script σ} (hs : s ≠ .fail failure) (h : Task.ofRequest depth tag s = none)
      (stops : ¬ s.Stops (e.handlersAt depth tag) w failure) :
      s.Stops (e.handlersAt depth tag) w failure ↔ s = .fail failure ∨
        ∃ task, Task.ofRequest depth tag s = some task ∧ task.Fails e w failure := by
    rw [h]
    simp [hs, stops]
  cases s with
  | done answer => exact silent (by simp) rfl id
  | fail own =>
    show failure = own ↔ _
    simp [Task.ofRequest, eq_comm]
  | content c next =>
    have content : (Script.content c next).Stops (e.handlersAt depth tag) w failure ↔
        (contentOf tag (e.renderNodes depth) c).Fails w failure := .rfl
    by_cases holds : tag.isSection = true
    · refine asks (by simp) (if_pos holds) (content.trans ?_)
      rw [contentOf, if_pos holds]
      exact Run.fails_bind_pure
    · refine silent (by simp) (if_neg holds) fun h => ?_
      rw [content, contentOf, if_neg holds] at h
      exact Run.not_fails_pure h
  | value v c next => exact asks (by simp) rfl fails_value
  | template t c next => exact asks (by simp) rfl .rfl
  | escape text next => exact silent (by simp) rfl id
  | state next => exact silent (by simp) rfl fun h => by cases h
  | outside change next => exact silent (by simp) rfl id

theorem fails_renderNodes {t : Template} : (e.renderNodes (depth + 1) t c).Fails w failure ↔
    ∃ n w', Comes (e.renderNode depth c) t w n w' ∧
      (e.renderNode depth c n).Fails w' failure := by
  rw [renderNodes_succ, Run.fails_bind_pure, Run.fails_each]

theorem fails_renderVariable_items {items : Items} (h : v.items? = some items) :
    (e.renderVariable (depth + 1) tag v c).Fails w failure ↔
      (∃ u w', ComesToItem (fun item => e.renderVariable depth tag item c) items w u w' ∧
        (e.renderVariable depth tag u c).Fails w' failure) ∨
      ∃ w', ComesToEnd (fun item => e.renderVariable depth tag item c) items w failure w' := by
  simp only [renderVariable, h]
  rw [Run.fails_bind_pure, Run.fails_eachItem]

theorem fails_renderVariable_value (h : v.items? = none) :
    (e.renderVariable (depth + 1) tag v c).Fails w failure ↔
      (e.renderValue depth tag v c).Fails w failure := by
  simp only [renderVariable, h]
  exact Run.fails_bind_pure

theorem fails_renderSection_inverted (h : tag.isInverted = true) :
    (e.renderSection (depth + 1) tag v c).Fails w failure ↔
      (∃ error, v.truth = .error error ∧ failure = .host error) ∨
        v.truth = .ok false ∧ (e.renderNodes depth tag.children c).Fails w failure := by
  simp only [renderSection, h, if_true]
  rw [Run.fails_bind_ofExcept]
  refine or_congr_right ⟨?_, ?_⟩
  · rintro ⟨_ | _, truth, fails⟩
    · exact ⟨truth, Run.fails_bind_pure.1 fails⟩
    · exact absurd fails Run.not_fails_pure
  · rintro ⟨truth, fails⟩
    exact ⟨false, truth, Run.fails_bind_pure.2 fails⟩

theorem fails_renderSection_items {items : Items} (h : tag.isInverted = false)
    (hi : v.items? = some items) :
    (e.renderSection (depth + 1) tag v c).Fails w failure ↔
      (∃ u w', ComesToItem (fun item => e.renderItem depth tag item c) items w u w' ∧
        (e.renderItem depth tag u c).Fails w' failure) ∨
      ∃ w', ComesToEnd (fun item => e.renderItem depth tag item c) items w failure w' := by
  simp only [renderSection, h, hi]
  rw [← Run.fails_eachItem]
  exact Run.fails_bind_pure

theorem fails_renderSection_value (h : tag.isInverted = false) (hi : v.items? = none) :
    (e.renderSection (depth + 1) tag v c).Fails w failure ↔
      (∃ error, v.truth = .error error ∧ failure = .host error) ∨
        v.truth = .ok true ∧ (e.renderItem depth tag v c).Fails w failure := by
  simp only [renderSection, h, hi, v.isShown_eq, Bool.false_eq_true, if_false]
  rw [Run.fails_bind_ofExcept]
  simp [Run.not_fails_pure]

theorem fails_renderItem : (e.renderItem (depth + 1) tag v c).Fails w failure ↔
    (v.isRenderable = true ∧ (e.renderValue depth tag v c).Fails w failure) ∨
      v.isRenderable = false ∧
        (e.renderNodes depth tag.children (c.push v [])).Fails w failure := by
  simp only [renderItem]
  by_cases h : v.isRenderable = true
  · simp only [h, if_true]
    simpa using Run.fails_bind_pure
  · simp only [h]
    simpa [h] using Run.fails_bind_pure

theorem fails_renderValue_items {items : Items} (h : v.joinedItems? = some items) :
    (e.renderValue (depth + 1) tag v c).Fails w failure ↔
      (∃ u w', ComesToItem (fun item => e.renderValue depth tag item c) items w u w' ∧
        (e.renderValue depth tag u c).Fails w' failure) ∨
      ∃ w', ComesToEnd (fun item => e.renderValue depth tag item c) items w failure w' := by
  rw [renderValue_of_items _ h, Run.fails_bind_pure, Run.fails_eachItem]

theorem fails_finishPair {value : Value → Run σ Rendering} {answer : Answer} :
    (finishPair value answer).Fails w failure ↔
      ∃ u, answer = .value u ∧ pair? u = none ∧ (value u).Fails w failure := by
  cases answer with
  | rendering r => simp [finishPair, Run.not_fails_pure]
  | value u =>
    cases h : pair? u with
    | some r => simp [finishPair, h, Run.not_fails_pure]
    | none => simp [finishPair, h]

theorem fails_finish {value : Value → Run σ Rendering} {answer : Answer} :
    (finish value answer).Fails w failure ↔
      ∃ u, answer = .value u ∧ (value u).Fails w failure := by
  cases answer with
  | rendering r => simp [finish, Run.not_fails_pure]
  | value u => simp [finish]

theorem fails_deferred {name : String} {captured : List Value} :
    (e.renderValue (depth + 1) tag (.deferred name captured) c).Fails w failure ↔
      ∃ inner, (((e.host.script name captured tag c).run (e.handlersAt depth tag)).Fails w inner ∨
        ∃ u w', (e.host.script name captured tag c).run (e.handlersAt depth tag) w =
          (.done (.value u), w') ∧ pair? u = none ∧ (e.renderValue depth tag u c).Fails w' inner) ∧
        failure = inner.wrapped (.renderingFailed (Value.deferred name captured).kind) := by
  simp only [renderValue]
  rw [Run.fails_wrap]
  refine exists_congr fun inner => and_congr_left fun _ => ?_
  rw [Run.fails_bind]
  simp only [fails_finishPair]
  refine or_congr .rfl ⟨?_, ?_⟩
  · rintro ⟨_, w', done, u, rfl, h⟩
    exact ⟨u, w', done, h⟩
  · rintro ⟨u, w', done, h⟩
    exact ⟨_, w', done, u, rfl, h⟩

theorem fails_custom {label name : String} {captured : List Value} :
    (e.renderValue (depth + 1) tag (.custom label name captured) c).Fails w failure ↔
      (∃ inner, ((e.host.script name captured tag c).run (e.handlersAt depth tag)).Fails w inner ∧
        failure = inner.wrapped (.renderingFailed label)) ∨
      ∃ answer w', (e.host.script name captured tag c).run (e.handlersAt depth tag) w =
        (.done answer, w') ∧ (answered label answer).Fails w' failure := by
  simp only [renderValue]
  rw [Run.fails_bind, Run.fails_wrap]
  refine or_congr .rfl (exists_congr fun answer => exists_congr fun w' => ?_)
  exact and_congr_left fun _ => Run.onFailure_eq_done

theorem fails_pending {body : Body TextFunction} {captured arguments : List Value} :
    (e.renderValue (depth + 1) tag (.pending body captured arguments) c).Fails w failure ↔
      ∃ inner, ((Run.each ((e.handlersAt depth tag).value · c) arguments).Fails w inner ∨
        ∃ rs w₁, Run.each ((e.handlersAt depth tag).value · c) arguments w = (.done rs, w₁) ∧
          ((body.callTexts e.host captured (rs.map (·.text))).Fails w₁ inner ∨
            ∃ u w₂ u', body.callTexts e.host captured (rs.map (·.text)) w₁ = (.done u, w₂) ∧
              transformed rs u = .value u' ∧ (e.renderValue depth tag u' c).Fails w₂ inner)) ∧
        failure =
          inner.wrapped (.renderingFailed (Value.pending body captured arguments).kind) := by
  simp only [renderValue]
  rw [Run.fails_wrap]
  refine exists_congr fun inner => and_congr_left fun _ => ?_
  rw [Run.fails_bind]
  refine or_congr .rfl (exists_congr fun rs => exists_congr fun w₁ => and_congr_right fun _ => ?_)
  rw [Run.fails_bind]
  simp only [fails_finish]
  refine or_congr .rfl (exists_congr fun u => exists_congr fun w₂ => ?_)
  rw [exists_and_left]

theorem fails_position {item key : Value} {index : Nat} {last : Bool} :
    (e.renderValue (depth + 1) tag (.eachItem item index last key) c).Fails w failure ↔
      ∃ inner, ((tag.isSection = true ∧ (e.renderNodes depth tag.children
          ((c.push (.mapping (Value.position index last key)) []).push item [])).Fails w inner) ∨
        tag.isSection = false ∧ (e.renderValue depth tag item c).Fails w inner) ∧
        failure = inner.wrapped (.renderingFailed (Value.eachItem item index last key).kind) := by
  simp only [renderValue]
  rw [Run.fails_wrap]
  refine exists_congr fun inner => and_congr_left fun _ => ?_
  by_cases holds : tag.isSection = true
  · have content (d : Context) :
        ((e.handlers tag (e.renderNodes depth) (e.renderSection depth tag)
          (e.renderValue depth tag)).content d).Fails w inner ↔
          (e.renderNodes depth tag.children d).Fails w inner := by
      show (contentOf tag (e.renderNodes depth) d).Fails w inner ↔ _
      rw [contentOf, if_pos holds]
      exact Run.fails_bind_pure
    simp [holds, content]
  · simp [holds]

theorem fails_evaluateArgument {x : Expr} :
    (e.evaluator.evaluateArgument c x).Fails w failure ↔
      (e.evaluator.evaluate c x).Fails w failure ∨
        ∃ u w', e.evaluator.evaluate c x w = (.done u, w') ∧
          (e.evaluator.argument x u).Fails w' failure :=
  Run.fails_bind

theorem fails_name {n : String} :
    (e.evaluator.evaluate c (.name n)).Fails w failure ↔
      ∃ error, c.lookup n = .error error ∧ failure = .host error := by
  simp only [Evaluator.evaluate]
  exact Run.fails_ofExcept

theorem fails_key {x : Expr} {key : String} :
    (e.evaluator.evaluate c (.key x key)).Fails w failure ↔
      (e.evaluator.evaluate c x).Fails w failure ∨
        ∃ v w' error, e.evaluator.evaluate c x w = (.done v, w') ∧
          v.lookup key = .error error ∧ failure = .host error := by
  simp only [Evaluator.evaluate]
  rw [Run.fails_bind]
  simp only [Run.fails_ofExcept, exists_and_left]

theorem fails_call {f a : Expr} {rest : List Expr} :
    (e.evaluator.evaluate c (.call f a rest)).Fails w failure ↔
      (e.evaluator.evaluate c f).Fails w failure ∨
        ∃ v w₁, e.evaluator.evaluate c f w = (.done v, w₁) ∧
          ((Evaluator.callee f v : Run σ _).Fails w₁ failure ∨
            ∃ filter w₂, Evaluator.callee f v w₁ = (.done filter, w₂) ∧
              ((∃ x w', Comes (e.evaluator.evaluateArgument c) (a :: rest) w₂ x w' ∧
                (e.evaluator.evaluateArgument c x).Fails w' failure) ∨
              ∃ arguments w₃, Run.each (e.evaluator.evaluateArgument c) (a :: rest) w₂ =
                (.done arguments, w₃) ∧
                ∃ name block raised,
                  filter.1.block? e.host f.text filter.2 arguments = some (name, block) ∧
                    block.Fails w₃ raised ∧
                      failure = .fault ((Origin.filter name).fault raised))) := by
  rw [Evaluator.evaluate_call, Run.fails_bind]
  refine or_congr .rfl (exists_congr fun v => exists_congr fun w₁ => and_congr_right fun _ => ?_)
  rw [Run.fails_bind]
  refine or_congr .rfl (exists_congr fun filter => exists_congr fun w₂ => ?_)
  refine and_congr_right fun _ => ?_
  rw [Run.fails_bind, Run.fails_each]
  refine or_congr .rfl (exists_congr fun arguments => exists_congr fun w₃ => ?_)
  refine and_congr_right fun _ => ?_
  exact Filter.fails_apply

/-! ## From one task to the next -/

theorem isRenderable_of_items {items : Items} (h : v.items? = some items) :
    v.isRenderable = false := by
  cases v <;> first | rfl | cases h

theorem onward_of_plain (h : v.isRenderable = false) :
    (Task.value depth tag v c).onward failure = failure := by
  simp [Task.onward, h]

theorem onward_of_script {name : String} {captured : List Value}
    (h : v.script? = some (name, captured)) :
    (Task.value depth tag v c).onward failure = failure.wrapped (.renderingFailed v.kind) := by
  cases v <;> cases h <;> rfl

/-- A renderable of the host fails if its script does. -/
theorem fails_of_script {name : String} {captured : List Value}
    (h : v.script? = some (name, captured))
    (fails : ((e.host.script name captured tag c).run (e.handlersAt depth tag)).Fails w inner) :
    (e.renderValue (depth + 1) tag v c).Fails w (inner.wrapped (.renderingFailed v.kind)) := by
  cases v <;> cases h
  · exact fails_deferred.2 ⟨inner, .inl fails, rfl⟩
  · exact fails_custom.2 (.inl ⟨inner, fails, rfl⟩)

/-- When a task fails that was entered, the one that entered it fails too. -/
theorem Enters.fails {task task' : Task} (h : e.Enters task w task' w')
    (fails : task'.Fails e w' failure) : task.Fails e w (task.onward failure) := by
  cases h with
  | node comes tag =>
    refine fails_renderNodes.2 ⟨_, w', comes, ?_⟩
    rw [renderNode_of_tag tag]
    exact fails
  | expression => exact (fails_visit _).2 ⟨failure, rfl, .inl (fails_resolve.2 (.inl fails))⟩
  | ofTag resolved =>
    exact (fails_visit _).2 ⟨failure, rfl, .inr ⟨_, _, resolved, fails_renderTag.2 fails⟩⟩
  | variableItem items comes =>
    exact (fails_renderVariable_items items).2 (.inl ⟨_, w', comes, fails⟩)
  | variableValue items => exact (fails_renderVariable_value items).2 fails
  | inverted inverted truth =>
    exact (fails_renderSection_inverted inverted).2 (.inr ⟨truth, fails⟩)
  | sectionItem inverted items comes =>
    exact (fails_renderSection_items inverted items).2 (.inl ⟨_, w', comes, fails⟩)
  | sectionValue inverted items shown =>
    exact (fails_renderSection_value inverted items).2 (.inr ⟨shown, fails⟩)
  | itemValue renderable => exact fails_renderItem.2 (.inl ⟨renderable, fails⟩)
  | itemNodes renderable => exact fails_renderItem.2 (.inr ⟨renderable, fails⟩)
  | valueItem items comes =>
    rw [onward_of_plain (isRenderable_of_items (Value.items?_of_joined items))]
    exact (fails_renderValue_items items).2 (.inl ⟨_, w', comes, fails⟩)
  | request script comes asked =>
    have stopped := Script.fails_run.2 ⟨_, w', comes, stops_iff.2 (.inr ⟨_, asked, fails⟩)⟩
    rw [onward_of_script script]
    exact fails_of_script script stopped
  | answer done pair => exact fails_deferred.2 ⟨failure, .inr ⟨_, w', done, pair, fails⟩, rfl⟩
  | argument comes =>
    have stopped := Run.fails_each.2 ⟨_, w', comes, fails_value.2 fails⟩
    exact fails_pending.2 ⟨failure, .inl stopped, rfl⟩
  | transformed done called value =>
    exact fails_pending.2
      ⟨failure, .inr ⟨_, _, done, .inr ⟨_, _, _, called, value, fails⟩⟩, rfl⟩
  | position holds => exact fails_position.2 ⟨failure, .inl ⟨holds, fails⟩, rfl⟩
  | positioned holds => exact fails_position.2 ⟨failure, .inr ⟨holds, fails⟩, rfl⟩
  | base => exact fails_key.2 (.inl fails)
  | callee => exact fails_call.2 (.inl fails)
  | callArgument found callee comes =>
    have stopped := fails_evaluateArgument.2 (.inl fails)
    exact fails_call.2 (.inr ⟨_, _, found, .inr ⟨_, _, callee, .inl ⟨_, w', comes, stopped⟩⟩⟩)

/-- Where something raises in a task, the task fails with it, wrapped once if it is an error. -/
theorem Raises.fails {task : Task} {o : Origin} {raised : Failure}
    (h : e.Raises task w o raised) : task.Fails e w (.fault (o.fault raised)) := by
  cases h with
  | call found callee arguments block fails =>
    exact fails_call.2 (.inr ⟨_, _, found, .inr ⟨_, _, callee, .inr ⟨_, _, arguments, _, _, _,
      block, fails, rfl⟩⟩⟩)
  | transformed done fails =>
    have called := Body.fails_callTexts.2 ⟨_, fails, rfl⟩
    exact fails_pending.2 ⟨_, .inr ⟨_, _, done, .inl called⟩, rfl⟩
  | script script comes =>
    have stopped := Script.fails_run.2 ⟨_, _, comes, stops_iff.2 (.inl rfl)⟩
    rw [← Origin.wrapped_eq]
    exact fails_of_script script stopped

theorem exists_fault_of_answered {label : String} {answer : Answer}
    (h : (answered label answer : Run σ Rendering).Fails w failure) :
    ∃ f, failure = .fault f := by
  unfold answered at h
  split at h
  · exact absurd h Run.not_fails_pure
  · split at h
    · exact absurd h Run.not_fails_pure
    · exact absurd h Run.not_fails_pure
    · exact absurd h Run.not_fails_pure
    · exact ⟨_, Run.fails_fail.1 h⟩

theorem Breaks.fails {task : Task} (h : e.Breaks task w inner) :
    task.Fails e w (task.onward inner) := by
  cases h with
  | variableTag items comes => exact (fails_renderVariable_items items).2 (.inr ⟨_, comes⟩)
  | sectionTag inverted items comes =>
    exact (fails_renderSection_items inverted items).2 (.inr ⟨_, comes⟩)
  | value items comes =>
    rw [onward_of_plain (isRenderable_of_items (Value.items?_of_joined items))]
    exact (fails_renderValue_items items).2 (.inr ⟨_, comes⟩)

theorem Refuses.fails {task : Task} (h : e.Refuses task w inner) :
    task.Fails e w (task.onward inner) := by
  cases h with
  | name found => exact fails_name.2 ⟨_, found, rfl⟩
  | key found error => exact fails_key.2 (.inr ⟨_, _, _, found, error, rfl⟩)
  | callee found fails => exact fails_call.2 (.inr ⟨_, _, found, .inl fails⟩)
  | argument found callee comes evaluated fails =>
    have stopped := fails_evaluateArgument.2 (.inr ⟨_, _, evaluated, fails⟩)
    exact fails_call.2 (.inr ⟨_, _, found, .inr ⟨_, _, callee, .inl ⟨_, _, comes, stopped⟩⟩⟩)
  | unresolved found missing =>
    exact (fails_visit _).2 ⟨_, rfl, .inl (fails_resolve.2 (.inr ⟨_, _, found, missing, rfl⟩))⟩
  | unwritable items renderable fails =>
    rw [onward_of_plain renderable]
    show (e.renderValue _ _ _ _).Fails w inner
    rw [renderValue_leaf _ items renderable]
    exact fails
  | truth asked raised =>
    show (e.renderSection _ _ _ _).Fails w _
    rw [renderSection_untold e asked raised]
    exact Run.fails_fail.2 rfl
  | sequence breaks => exact breaks.fails
  | answered done fails =>
    obtain ⟨f, rfl⟩ := exists_fault_of_answered fails
    exact fails_custom.2 (.inr ⟨_, _, done, fails⟩)

/-- There is a reason for a failure at the task: a task that it enters fails, or something is
raised in it, or the engine gives up in it. -/
def HasReason (e : Engine σ) (task : Task) (w : World σ) : Prop :=
  (∃ task' w' failure, e.Enters task w task' w' ∧ task'.Fails e w' failure) ∨
    (∃ o raised, e.Raises task w o raised) ∨ ∃ failure, e.Refuses task w failure

theorem hasReason_of_script {name : String} {captured : List Value}
    (h : v.script? = some (name, captured))
    (fails : ((e.host.script name captured tag c).run (e.handlersAt depth tag)).Fails w failure) :
    e.HasReason (.value (depth + 1) tag v c) w := by
  obtain ⟨s, w', comes, stops⟩ := Script.fails_run.1 fails
  rcases stops_iff.1 stops with rfl | ⟨task, asked, fails⟩
  · exact .inr (.inl ⟨_, _, .script h comes⟩)
  · exact .inl ⟨task, w', _, .request h comes asked, fails⟩

theorem hasReason_value (fails : (e.renderValue (depth + 1) tag v c).Fails w failure) :
    e.HasReason (.value (depth + 1) tag v c) w := by
  rcases items : v.joinedItems? with _ | items'
  · by_cases renderable : v.isRenderable = true
    · cases v with
      | eager text safe =>
        simp only [renderValue] at fails
        exact absurd fails Run.not_fails_pure
      | deferred name captured =>
        obtain ⟨inner, fails | ⟨u, w', done, pair, fails⟩, _⟩ := fails_deferred.1 fails
        · exact hasReason_of_script rfl fails
        · exact .inl ⟨_, _, _, .answer done pair, fails⟩
      | pending body captured arguments =>
        obtain ⟨inner, fails | ⟨rs, w₁, done, called | ⟨u, w₂, u', called, value, fails⟩⟩, _⟩ :=
          fails_pending.1 fails
        · obtain ⟨a, w', comes, fails⟩ := Run.fails_each.1 fails
          exact .inl ⟨_, _, _, .argument comes, fails_value.1 fails⟩
        · obtain ⟨raised, fails, _⟩ := Body.fails_callTexts.1 called
          exact .inr (.inl ⟨_, _, .transformed done fails⟩)
        · exact .inl ⟨_, _, _, .transformed done called value, fails⟩
      | custom label name captured =>
        rcases fails_custom.1 fails with ⟨inner, fails, _⟩ | ⟨answer, w', done, fails⟩
        · exact hasReason_of_script rfl fails
        · exact .inr (.inr ⟨_, .answered done fails⟩)
      | eachItem item index last key =>
        obtain ⟨inner, ⟨holds, fails⟩ | ⟨holds, fails⟩, _⟩ := fails_position.1 fails
        · exact .inl ⟨_, _, _, .position holds, fails⟩
        · exact .inl ⟨_, _, _, .positioned holds, fails⟩
      | _ => cases renderable
    · have plain : v.isRenderable = false := by simpa using renderable
      rw [renderValue_leaf _ items plain] at fails
      exact .inr (.inr ⟨_, .unwritable items plain fails⟩)
  · rcases (fails_renderValue_items items).1 fails with ⟨u, w', comes, fails⟩ | ⟨w', comes⟩
    · exact .inl ⟨_, _, _, .valueItem items comes, fails⟩
    · exact .inr (.inr ⟨_, .sequence (.value items comes)⟩)

theorem hasReason_evaluate {x : Expr} (fails : (e.evaluator.evaluate c x).Fails w failure) :
    e.HasReason (.evaluate c x) w := by
  cases x with
  | name n =>
    obtain ⟨error, found, _⟩ := fails_name.1 fails
    exact .inr (.inr ⟨_, .name found⟩)
  | top =>
    simp only [Evaluator.evaluate] at fails
    exact absurd fails Run.not_fails_pure
  | key x key =>
    rcases fails_key.1 fails with fails | ⟨v, w', error, found, missing, _⟩
    · exact .inl ⟨_, _, _, .base, fails⟩
    · exact .inr (.inr ⟨_, .key found missing⟩)
  | call f a rest =>
    rcases fails_call.1 fails with fails | ⟨v, w₁, found, fails | ⟨filter, w₂, callee, fails⟩⟩
    · exact .inl ⟨_, _, _, .callee, fails⟩
    · exact .inr (.inr ⟨_, .callee found fails⟩)
    · rcases fails with ⟨x, w', comes, fails⟩ |
        ⟨arguments, w₃, done, name, block, raised, is, fails, _⟩
      · rcases fails_evaluateArgument.1 fails with fails | ⟨u, w'', evaluated, fails⟩
        · exact .inl ⟨_, _, _, .callArgument found callee comes, fails⟩
        · exact .inr (.inr ⟨_, .argument found callee comes evaluated fails⟩)
      · exact .inr (.inl ⟨_, _, .call found callee done is fails⟩)

theorem hasReason_of_fails {task : Task} (fails : task.Fails e w failure) : e.HasReason task w := by
  cases task with
  | nodes depth t c =>
    cases depth with
    | zero => exact absurd fails Run.not_fails_exhaust
    | succ depth =>
      obtain ⟨n, w', comes, fails⟩ := fails_renderNodes.1 fails
      cases tag : n.tag? with
      | none =>
        cases n with
        | text s => exact absurd fails Run.not_fails_pure
        | _ => cases tag
      | some found =>
        rw [renderNode_of_tag tag] at fails
        exact .inl ⟨_, _, _, .node comes tag, fails⟩
  | visit depth head form c =>
    obtain ⟨inner, _, fails | ⟨v, w', resolved, fails⟩⟩ := (fails_visit _).1 fails
    · rcases fails_resolve.1 fails with fails | ⟨v, w', found, missing, _⟩
      · exact .inl ⟨_, _, _, .expression, fails⟩
      · exact .inr (.inr ⟨_, .unresolved found missing⟩)
    · exact .inl ⟨_, _, _, .ofTag resolved, fails_renderTag.1 fails⟩
  | variableTag depth tag v c =>
    cases depth with
    | zero => exact absurd fails Run.not_fails_exhaust
    | succ depth =>
      cases items : v.items? with
      | some items' =>
        rcases (fails_renderVariable_items items).1 fails with ⟨u, w', comes, fails⟩ | ⟨w', comes⟩
        · exact .inl ⟨_, _, _, .variableItem items comes, fails⟩
        · exact .inr (.inr ⟨_, .sequence (.variableTag items comes)⟩)
      | none =>
        have fails := (fails_renderVariable_value items).1 fails
        exact .inl ⟨_, _, _, .variableValue items, fails⟩
  | sectionTag depth tag v c =>
    cases depth with
    | zero => exact absurd fails Run.not_fails_exhaust
    | succ depth =>
      cases inverted : tag.isInverted with
      | true =>
        rcases (fails_renderSection_inverted inverted).1 fails with
          ⟨error, raised, _⟩ | ⟨truth, fails⟩
        · exact .inr (.inr ⟨_, .truth (.inl inverted) raised⟩)
        · exact .inl ⟨_, _, _, .inverted inverted truth, fails⟩
      | false =>
        cases items : v.items? with
        | some items' =>
          rcases (fails_renderSection_items inverted items).1 fails with
            ⟨u, w', comes, fails⟩ | ⟨w', comes⟩
          · exact .inl ⟨_, _, _, .sectionItem inverted items comes, fails⟩
          · exact .inr (.inr ⟨_, .sequence (.sectionTag inverted items comes)⟩)
        | none =>
          rcases (fails_renderSection_value inverted items).1 fails with
            ⟨error, raised, _⟩ | ⟨shown, fails⟩
          · exact .inr (.inr ⟨_, .truth (.inr items) raised⟩)
          · exact .inl ⟨_, _, _, .sectionValue inverted items shown, fails⟩
  | item depth tag v c =>
    cases depth with
    | zero => exact absurd fails Run.not_fails_exhaust
    | succ depth =>
      rcases fails_renderItem.1 fails with ⟨renderable, fails⟩ | ⟨renderable, fails⟩
      · exact .inl ⟨_, _, _, .itemValue renderable, fails⟩
      · exact .inl ⟨_, _, _, .itemNodes renderable, fails⟩
  | value depth tag v c =>
    cases depth with
    | zero => exact absurd fails Run.not_fails_exhaust
    | succ depth => exact hasReason_value fails
  | evaluate c x => exact hasReason_evaluate fails

end Engine

/-! ## From the outside to where it went wrong -/

/-- The fault as it leaves tags that stand inside one another, outermost first: a place that is not
known yet is that of the innermost one. -/
def Fault.leaving (f : Fault) (heads : List Head) : Fault :=
  { f with location := f.location.or (heads.getLast?.map (·.location)) }

theorem Fault.leaving_nil (f : Fault) : f.leaving [] = f := by
  rcases f with ⟨cause, _ | l⟩ <;> rfl

theorem Fault.locate_leaving (f : Fault) (head : Head) (heads : List Head) :
    (f.leaving heads).locate head.location = f.leaving (head :: heads) := by
  rcases f with ⟨cause, _ | l⟩
  · cases heads <;> rfl
  · rfl

namespace Task

/-- How far a task is from where nothing is left to do. -/
noncomputable def rank : Task → Nat × Nat
  | .visit depth .. => (2 * depth + 1, 0)
  | .nodes depth .. | .variableTag depth .. | .sectionTag depth .. | .item depth ..
  | .value depth .. => (2 * depth, 0)
  | .evaluate _ x => (0, sizeOf x)

theorem rank_ofTag (depth : Nat) (tag : Tag) (v : Value) (c : Context) :
    (ofTag depth tag v c).rank = (2 * depth, 0) := by
  unfold ofTag
  split <;> rfl

theorem rank_rendered (depth : Nat) (tag : Tag) (v : Value) (c : Context) :
    (rendered depth tag v c).rank = (2 * depth, 0) := by
  unfold rendered
  split <;> rfl

theorem rank_ofRequest {depth : Nat} {tag : Tag} {s : Script σ} {task : Task}
    (h : ofRequest depth tag s = some task) : task.rank = (2 * depth, 0) := by
  cases s with
  | content c next =>
    simp only [ofRequest, Option.ite_none_right_eq_some, Option.some.injEq] at h
    exact h.2 ▸ rfl
  | value v c next =>
    cases h
    exact rank_rendered ..
  | template t c next =>
    cases h
    rfl
  | _ => cases h

end Task

namespace Engine

variable {e : Engine σ} {task task' : Task} {w w' : World σ} {heads : List Head}

/-- From the first task the engine comes to the second one, through the tags with these heads. -/
inductive Descends (e : Engine σ) : Task → World σ → List Head → Task → World σ → Prop
  | here {task : Task} {w : World σ} : Descends e task w [] task w
  | enter {task inner task' : Task} {heads : List Head} {w w₁ w' : World σ} :
    e.Enters task w inner w₁ → Descends e inner w₁ heads task' w' →
    Descends e task w (task.head?.toList ++ heads) task' w'

/-- A fault that something fails with at the end of the way is the fault of the whole way. -/
theorem Descends.fails (h : e.Descends task w heads task' w') {f : Fault}
    (fails : task'.Fails e w' (.fault f)) : task.Fails e w (.fault (f.leaving heads)) := by
  induction h with
  | here => rwa [f.leaving_nil]
  | @enter task inner task' heads w w₁ w' enters _ ih =>
    have left : task.onward (.fault (f.leaving heads)) =
        .fault (f.leaving (task.head?.toList ++ heads)) := by
      cases task with
      | visit depth head form c => exact congrArg Failure.fault (f.locate_leaving head heads)
      | value depth tag v c =>
        simp only [Task.onward]
        split <;> rfl
      | _ => rfl
    exact left ▸ enters.fails (ih fails)

theorem mem_of_comes {α β : Type} {f : α → Run σ β} {l : List α} {x : α}
    (h : Run.Comes f l w x w') : x ∈ l := by
  induction h with
  | here => exact List.mem_cons_self
  | later _ _ ih => exact List.mem_cons_of_mem _ ih

theorem Enters.rank_lt (h : e.Enters task w task' w') :
    Prod.Lex (· < ·) (· < ·) task'.rank task.rank := by
  have deeper {depth below : Nat} (h : below < depth) :
      Prod.Lex (· < ·) (· < ·) (below, 0) (depth, 0) := .left _ _ h
  cases h with
  | ofTag => exact Task.rank_ofTag .. ▸ deeper (by omega)
  | request _ _ asked => exact Task.rank_ofRequest asked ▸ deeper (by omega)
  | argument => exact Task.rank_rendered .. ▸ deeper (by omega)
  | expression => exact .left _ _ (by omega)
  | base => exact .right _ (by simp only [Expr.key.sizeOf_spec]; omega)
  | callee => exact .right _ (by simp only [Expr.call.sizeOf_spec]; omega)
  | callArgument _ _ comes =>
    have smaller := List.sizeOf_lt_of_mem (mem_of_comes comes)
    simp only [List.cons.sizeOf_spec] at smaller
    exact .right _ (by simp only [Expr.call.sizeOf_spec]; omega)
  | _ => exact deeper (by omega)

/-- Behind every failure of a task there is a way to where something was raised, or to where the
engine gave up. -/
theorem exists_descends {task : Task} {w : World σ} {failure : Failure}
    (fails : task.Fails e w failure) :
    ∃ heads task' w', e.Descends task w heads task' w' ∧
      ((∃ o raised, e.Raises task' w' o raised) ∨ ∃ refused, e.Refuses task' w' refused) := by
  rcases hasReason_of_fails fails with ⟨inner, w₁, failure', enters, fails⟩ | reason
  · obtain ⟨heads, task', w', descends, reason⟩ := exists_descends fails
    exact ⟨_, task', w', .enter enters descends, reason⟩
  · exact ⟨[], task, w, .here, reason⟩
termination_by task.rank
decreasing_by exact enters.rank_lt

end Engine

end Stencil
