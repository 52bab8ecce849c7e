-- The tags that are open when a rendering fails: those on the way from the outside to where it went
-- wrong. A failure leaves through exactly these, and as it leaves they fail one after the other;
-- every other tag has been rendered before. While something is rendered for a tag, the tag is
-- rendering.
import Stencil.Proofs.TagStates
import Stencil.Proofs.Visits

namespace Stencil

variable {σ : Type}

/-! ## The world in which a failure leaves -/

namespace Run

variable {α β : Type} {w w₁ w' : World σ} {failure : Failure}

theorem bind_failed_left {r : Run σ α} (h : r w = (.failed failure, w')) (f : α → Run σ β) :
    (r >>= f) w = (.failed failure, w') := by
  rw [bind_apply, h]

theorem bind_failed {r : Run σ α} {f : α → Run σ β} {a : α} (done : r w = (.done a, w₁))
    (h : f a w₁ = (.failed failure, w')) : (r >>= f) w = (.failed failure, w') := by
  rw [bind_apply, done]
  exact h

theorem wrap_failed {r : Run σ α} (h : r w = (.failed failure, w'))
    (cause : HostError → Cause) : r.wrap cause w = (.failed (failure.wrapped cause), w') := by
  unfold wrap onFailure
  rw [h]
  cases failure <;> rfl

theorem Comes.failed {f : α → Run σ β} {l : List α} {a : α} (comes : Comes f l w a w₁)
    (h : f a w₁ = (.failed failure, w')) : each f l w = (.failed failure, w') := by
  induction comes with
  | here => exact bind_failed_left h _
  | later done _ ih => exact bind_failed done (bind_failed_left (ih h) _)

/-- Going through a stream fails where the run for an item does, and with the failure of the stream
itself. -/
theorem Draws.failed {f : Value → Run σ β} {id bound : Nat} {items : List Value}
    {ending : Option Failure} {next : Draw} (draws : Draws f id items ending bound w next w₁)
    (item : ∀ v, next = .item v → f v w₁ = (.failed failure, w'))
    (raised : ∀ own, next = .raised own → own = failure ∧ w₁ = w') (more : next ≠ .ended) :
    drain f id items ending bound w = (.failed failure, w') := by
  induction draws with
  | @here bound w next o pull =>
    rw [drain_apply, pull]
    cases next with
    | item v => exact bind_failed_left (item v rfl) _
    | raised own =>
      obtain ⟨rfl, rfl⟩ := raised own rfl
      rfl
    | ended => exact absurd rfl more
  | later pull done _ ih =>
    rw [drain_apply, pull]
    exact bind_failed done (bind_failed_left (ih item raised more) _)

theorem ComesToItem.failed {f : Value → Run σ β} {items : Items} {v : Value}
    (comes : ComesToItem f items w v w₁) (h : f v w₁ = (.failed failure, w')) :
    eachItem f items w = (.failed failure, w') := by
  cases items with
  | fixed items => exact Comes.failed comes h
  | stream id items ending =>
    exact Draws.failed comes (fun _ same => Draw.item.inj same ▸ h) nofun nofun

theorem ComesToEnd.failed {f : Value → Run σ β} {items : Items}
    (comes : ComesToEnd f items w failure w') : eachItem f items w = (.failed failure, w') := by
  cases items with
  | fixed items => exact comes.elim
  | stream id items ending =>
    exact Draws.failed comes nofun (fun _ same => ⟨(Draw.raised.inj same).symm, rfl⟩) nofun

end Run

/-- A script goes on as what remains of it does. -/
theorem Script.ComesTo.run_eq {h : Script.Handlers σ} {s s' : Script σ} {w w' : World σ}
    (comes : s.ComesTo h w s' w') : s.run h w = s'.run h w' := by
  induction comes with
  | here => rfl
  | content answered _ ih =>
    rw [← ih, run, Run.bind_apply, answered]
  | value answered _ ih =>
    rw [← ih, run, Run.bind_apply, answered]
  | template answered _ ih =>
    rw [← ih, run, Run.bind_apply, answered]
  | escape _ ih => exact ih
  | state answered _ ih =>
    rw [← ih, run, Run.bind_apply, answered]
  | outside _ ih => exact ih

namespace Task

/-- The task fails in the first world with this failure and leaves the second world behind. -/
def Leaves (e : Engine σ) (w : World σ) (failure : Failure) (w' : World σ) : Task → Prop
  | .nodes depth t c => e.renderNodes depth t c w = (.failed failure, w')
  | .visit depth head form c => e.visit head form c (e.renderTag depth c) w = (.failed failure, w')
  | .variableTag depth tag v c => e.renderVariable depth tag v c w = (.failed failure, w')
  | .sectionTag depth tag v c => e.renderSection depth tag v c w = (.failed failure, w')
  | .item depth tag v c => e.renderItem depth tag v c w = (.failed failure, w')
  | .value depth tag v c => e.renderValue depth tag v c w = (.failed failure, w')
  | .evaluate c x => e.evaluator.evaluate c x w = (.failed failure, w')

/-- The tag that the task creates. -/
def newTag? (w : World σ) : Task → Option Tag
  | .visit _ head form _ => some (w.newTag head form)
  | .nodes .. | .variableTag .. | .sectionTag .. | .item .. | .value .. | .evaluate .. => none

/-- The tag for which the task renders a value. -/
def tag? : Task → Option Tag
  | .variableTag _ tag _ _ | .sectionTag _ tag _ _ | .item _ tag _ _ | .value _ tag _ _ => some tag
  | .nodes .. | .visit .. | .evaluate .. => none

/-- The world that a failure leaves behind when it leaves the task. -/
def behind (w : World σ) (failure : Failure) (w' : World σ) (task : Task) : World σ :=
  match task.newTag? w with
  | some tag => w'.left tag failure
  | none => w'

theorem tag?_ofTag (depth : Nat) (tag : Tag) (v : Value) (c : Context) :
    (ofTag depth tag v c).tag? = some tag := by
  unfold ofTag
  split <;> rfl

theorem tag?_rendered (depth : Nat) (tag : Tag) (v : Value) (c : Context) :
    (rendered depth tag v c).tag? = some tag := by
  unfold rendered
  split <;> rfl

theorem tag?_ofRequest {depth : Nat} {tag other : Tag} {s : Script σ} {task : Task}
    (asked : ofRequest depth tag s = some task) (is : task.tag? = some other) : other = tag := by
  cases s with
  | content c next =>
    simp only [ofRequest, Option.ite_none_right_eq_some, Option.some.injEq] at asked
    obtain ⟨_, rfl⟩ := asked
    cases is
  | value v c next =>
    cases asked
    rw [tag?_rendered] at is
    exact (Option.some.inj is).symm
  | template t c next =>
    cases asked
    cases is
  | _ => cases asked

variable {e : Engine σ} {w w' : World σ} {failure : Failure} {task : Task}

theorem Leaves.fails (h : task.Leaves e w failure w') : task.Fails e w failure := by
  cases task <;> exact congrArg Prod.fst h

theorem Fails.exists_leaves (h : task.Fails e w failure) : ∃ w', task.Leaves e w failure w' := by
  cases task <;> exact Run.fails_iff.1 h

end Task

namespace Engine

variable {e : Engine σ} {task task' : Task} {w w₁ w' : World σ} {failure : Failure} {depth : Nat}
  {tag : Tag} {c : Context} {v : Value}

theorem renderTag_failed (h : (Task.ofTag depth tag v c).Leaves e w failure w') :
    e.renderTag depth c tag v w = (.failed failure, w') := by
  unfold Task.ofTag Tag.isSection at h
  unfold renderTag
  cases form : tag.form with
  | variableTag escaped =>
    rw [form] at h
    exact h
  | sectionTag inverted children inner =>
    rw [form] at h
    exact Run.bind_failed_left h _

theorem value_failed (h : (Task.rendered depth tag v c).Leaves e w failure w') :
    (e.handlersAt depth tag).value v c w = (.failed failure, w') := by
  show valueFor tag (e.renderSection depth tag) (e.renderValue depth tag) v c w = _
  unfold Task.rendered at h
  unfold valueFor
  split at h
  · rename_i holds
    rw [if_pos holds]
    exact Run.bind_failed_left h _
  · rename_i holds
    rw [if_neg holds]
    exact h

theorem content_failed (holds : tag.isSection = true)
    (h : e.renderNodes depth tag.children c w = (.failed failure, w')) :
    (e.handlersAt depth tag).content c w = (.failed failure, w') := by
  show contentOf tag (e.renderNodes depth) c w = _
  rw [contentOf, if_pos holds]
  exact Run.bind_failed_left h _

/-- A script fails with what it asks for. -/
theorem request_failed {s : Script σ} (asked : Task.ofRequest depth tag s = some task)
    (h : task.Leaves e w failure w') :
    s.run (e.handlersAt depth tag) w = (.failed failure, w') := by
  cases s with
  | content d next =>
    simp only [Task.ofRequest, Option.ite_none_right_eq_some, Option.some.injEq] at asked
    obtain ⟨holds, rfl⟩ := asked
    exact Run.bind_failed_left (content_failed holds h) _
  | value u d next =>
    cases asked
    exact Run.bind_failed_left (value_failed h) _
  | template t d next =>
    cases asked
    have nodes : e.renderNodes depth t d w = (.failed failure, w') := h
    exact Run.bind_failed_left nodes _
  | _ => cases asked

/-- A renderable of the host fails with its script. -/
theorem renderValue_failed_of_script {name : String} {captured : List Value}
    (is : v.script? = some (name, captured))
    (h : (e.host.script name captured tag c).run (e.handlersAt depth tag) w =
      (.failed failure, w')) :
    e.renderValue (depth + 1) tag v c w =
      (.failed (failure.wrapped (.renderingFailed v.kind)), w') := by
  cases v <;> cases is <;> rw [renderValue]
  · exact Run.wrap_failed (Run.bind_failed_left h _) _
  · exact Run.bind_failed_left (Run.wrap_failed h _) _

/-- A tag fails with its expression. -/
theorem visit_failed {α : Type} {head : Head} {form : Form} {render : Tag → Value → Run σ α}
    (h : e.resolve (w.newTag head form) c w.opened = (.failed failure, w')) :
    e.visit head form c render w =
      (.failed (failure.located head.location), w'.left (w.newTag head form) failure) := by
  rw [visit_eq, h]

/-- When a task fails that was entered, the one that entered it fails in the world that this leaves
behind, once the tag that it has created has failed. -/
theorem Enters.leaves (h : e.Enters task w task' w₁) (left : task'.Leaves e w₁ failure w') :
    task.Leaves e w (task.onward failure) (task.behind w failure w') := by
  cases h with
  | node comes tag =>
    show e.renderNodes _ _ _ w = (.failed failure, w')
    rw [renderNodes_succ]
    refine Run.bind_failed_left (comes.failed ?_) _
    rw [renderNode_of_tag tag]
    exact left
  | @expression depth head form c =>
    have resolved : e.resolve (w.newTag head form) c w.opened = (.failed failure, w') :=
      Run.bind_failed_left left _
    exact visit_failed resolved
  | @ofTag depth head form c v _ w₁ resolved =>
    show e.visit head form c (e.renderTag depth c) w = _
    rw [visit_eq, resolved]
    simp only [renderTag_failed left]
    rfl
  | variableItem items comes =>
    show e.renderVariable _ _ _ _ w = (.failed failure, w')
    simp only [renderVariable, items]
    exact Run.bind_failed_left (comes.failed left) _
  | variableValue items =>
    show e.renderVariable _ _ _ _ w = (.failed failure, w')
    simp only [renderVariable, items]
    exact Run.bind_failed_left left _
  | inverted inverted truthy =>
    show e.renderSection _ _ _ _ w = (.failed failure, w')
    simp only [renderSection, inverted, if_true, truthy]
    exact Run.bind_failed_left left _
  | sectionItem inverted items comes =>
    show e.renderSection _ _ _ _ w = (.failed failure, w')
    simp only [renderSection, inverted, items]
    exact Run.bind_failed_left (comes.failed left) _
  | sectionValue inverted items shown =>
    show e.renderSection _ _ _ _ w = (.failed failure, w')
    simp only [renderSection, inverted, items, Value.isShown_eq, shown]
    exact left
  | itemValue renderable =>
    show e.renderItem _ _ _ _ w = (.failed failure, w')
    simp only [renderItem, renderable, if_true]
    exact Run.bind_failed_left left _
  | itemNodes renderable =>
    show e.renderItem _ _ _ _ w = (.failed failure, w')
    simp only [renderItem, renderable]
    exact Run.bind_failed_left left _
  | valueItem items comes =>
    rw [onward_of_plain (isRenderable_of_items (Value.items?_of_joined items))]
    show e.renderValue _ _ _ _ w = (.failed failure, w')
    rw [renderValue_of_items _ items]
    exact Run.bind_failed_left (comes.failed left) _
  | request script comes asked =>
    rw [onward_of_script script]
    refine renderValue_failed_of_script script ?_
    rw [comes.run_eq]
    exact request_failed asked left
  | answer done pair =>
    show e.renderValue _ _ _ _ w = (.failed (failure.wrapped _), w')
    rw [renderValue]
    refine Run.wrap_failed (Run.bind_failed done ?_) _
    simp only [finishPair, pair]
    exact left
  | argument comes =>
    show e.renderValue _ _ _ _ w = (.failed (failure.wrapped _), w')
    rw [renderValue]
    exact Run.wrap_failed (Run.bind_failed_left (comes.failed (value_failed left)) _) _
  | transformed done called value =>
    show e.renderValue _ _ _ _ w = (.failed (failure.wrapped _), w')
    rw [renderValue]
    refine Run.wrap_failed (Run.bind_failed done (Run.bind_failed called ?_)) _
    rw [value]
    exact left
  | position holds =>
    show e.renderValue _ _ _ _ w = (.failed (failure.wrapped _), w')
    rw [renderValue, if_pos holds]
    exact Run.wrap_failed (content_failed holds left) _
  | positioned holds =>
    show e.renderValue _ _ _ _ w = (.failed (failure.wrapped _), w')
    rw [renderValue, if_neg (by rw [holds]; exact Bool.false_ne_true)]
    exact Run.wrap_failed left _
  | base =>
    show e.evaluator.evaluate _ _ w = (.failed failure, w')
    rw [Evaluator.evaluate]
    exact Run.bind_failed_left left _
  | callee =>
    show e.evaluator.evaluate _ _ w = (.failed failure, w')
    rw [Evaluator.evaluate]
    exact Run.bind_failed_left left _
  | callArgument found callee comes =>
    show e.evaluator.evaluate _ _ w = (.failed failure, w')
    rw [Evaluator.evaluate_call]
    refine Run.bind_failed found (Run.bind_failed callee ?_)
    exact Run.bind_failed_left (comes.failed (Run.bind_failed_left left _)) _

/-! ## What happens before a task is entered -/

/-- Before a task is entered that is not of a new tag, all new tags have come to their ends. -/
theorem Enters.tidy (h : e.Enters task w task' w₁) (old : task.newTag? w = none) :
    Conduct.tidy.done w w₁ := by
  cases h with
  | node comes tag => exact comes.done ((e.tidies _).node _)
  | expression => cases old
  | ofTag resolved => cases old
  | variableItem items comes => exact comes.done fun u => (e.tidies _).variableTag _ u _
  | sectionItem inverted items comes => exact comes.done fun u => (e.tidies _).item _ u _
  | valueItem items comes => exact comes.done fun u => (e.tidies _).value _ u _
  | request script comes asked => exact comes.done ((e.tidies _).handlers _)
  | answer done pair => exact (Script.obeys_run ((e.tidies _).handlers _) _).done done
  | argument comes => exact comes.done fun a => ((e.tidies _).handlers _).value a _
  | @transformed depth tag body captured _ _ _ _ c _ _ _ done called value =>
    have texts := (Run.obeys_each (p := .tidy) (fun a => ((e.tidies depth).handlers tag).value a c)
      _).done done
    exact Conduct.tidy.done_trans texts ((body.obeys_callTexts captured _).done called)
  | callArgument found callee comes =>
    have first := Conduct.tidy.done_trans ((e.evaluator.obeys_evaluate _ _).done found)
      ((Evaluator.obeys_callee _ _).done callee)
    refine Conduct.tidy.done_trans first (comes.done fun x => ?_)
    exact (e.evaluator.obeys_evaluate _ x).bind (e.evaluator.obeys_argument x)
  | _ => exact Conduct.tidy.refl w

/-- The task renders for the tag for which the one renders that enters it, unless that one has just
created the tag. -/
theorem Enters.tag_eq (h : e.Enters task w task' w₁) (is : task'.tag? = some tag) :
    task.tag? = some tag ∨ task.newTag? w = some tag ∧ w.Attends w₁ tag .rendering := by
  cases h with
  | ofTag resolved =>
    rw [Task.tag?_ofTag] at is
    cases is
    exact .inr ⟨rfl, attends_readied resolved⟩
  | argument comes =>
    rw [Task.tag?_rendered] at is
    exact .inl is
  | request script comes asked =>
    cases Task.tag?_ofRequest asked is
    exact .inl rfl
  | node => cases is
  | expression => cases is
  | inverted => cases is
  | itemNodes => cases is
  | position => cases is
  | base => cases is
  | callee => cases is
  | callArgument => cases is
  | _ => exact .inl is

/-- While something is rendered for a tag, the tag is rendering. -/
theorem Descends.rendering {heads : List Head} (h : e.Descends task w heads task' w')
    (start : ∀ tag, task.tag? = some tag →
      tag.id < w.journal.created ∧ w.journal.stateOf tag.id = .rendering) :
    ∀ tag, task'.tag? = some tag →
      tag.id < w'.journal.created ∧ w'.journal.stateOf tag.id = .rendering := by
  induction h with
  | here => exact start
  | @enter task inner task' heads w w₁ w' enters _ ih =>
    refine ih fun tag is => ?_
    rcases enters.tag_eq is with same | ⟨_, attends⟩
    · have old : task.newTag? w = none := by
        cases task <;> first | rfl | cases same
      have orderly := (enters.tidy old).1
      obtain ⟨new, rendering⟩ := start tag same
      exact ⟨Nat.lt_of_lt_of_le new orderly.created_le, (orderly.stateOf_eq new).trans rendering⟩
    · exact ⟨attends.new, attends.here⟩

/-! ## Open tags -/

/-- The tags that are open, outermost first, when the task fails because of what is raised or
refused in it or in a task that it comes to enter. -/
inductive OpenAt (e : Engine σ) : Task → World σ → List Tag → Prop
  | raises {task : Task} {o : Origin} {raised : Failure} {w : World σ} :
    e.Raises task w o raised → OpenAt e task w []
  | refuses {task : Task} {refused : Failure} {w : World σ} :
    e.Refuses task w refused → OpenAt e task w (task.newTag? w).toList
  | enter {task inner : Task} {opened : List Tag} {w w₁ : World σ} :
    e.Enters task w inner w₁ → OpenAt e inner w₁ opened →
    OpenAt e task w ((task.newTag? w).toList ++ opened)

/-- Every failure inside a tag that the engine comes to is a fault when it reaches the tag. -/
def FaultsReachTags (e : Engine σ) (task : Task) (w : World σ) : Prop :=
  ∀ heads depth head form c w' error,
    e.Descends task w heads (.visit depth head form c) w' →
      ¬ (Task.visit depth head form c).Fails e w' (.host error)

theorem FaultsReachTags.enters (h : e.FaultsReachTags task w) (enters : e.Enters task w task' w₁) :
    e.FaultsReachTags task' w₁ :=
  fun _ _ _ _ _ _ error descends => h _ _ _ _ _ _ error (.enter enters descends)

/-- The failure leaves the task in this world, in which the tags that were open have failed and all
others have been rendered. -/
structure Closes (e : Engine σ) (task : Task) (w : World σ) (opened : List Tag)
    (w' : World σ) : Prop where
  leaves : ∃ failure, task.Leaves e w failure w'
  orderly : w.Orderly w'
  settled : w'.Settled w.journal.created opened

/-- What happens after all new tags have come to their ends. -/
theorem closes_after {opened : List Tag} (leaves : ∃ failure, task.Leaves e w failure w')
    (before : Conduct.tidy.done w w₁) (orderly : w₁.Orderly w')
    (settled : w'.Settled w₁.journal.created opened) : e.Closes task w opened w' :=
  ⟨leaves, before.1.trans orderly, before.2.append before.1.created_le orderly settled⟩

theorem closes_still (leaves : ∃ failure, task.Leaves e w failure w')
    (before : Conduct.tidy.done w w₁) (still : w'.journal = w₁.journal) : e.Closes task w [] w' :=
  closes_after leaves before (.of_journal_eq still) (.none (Nat.le_of_eq (by rw [still])))

theorem closes_evaluate {x : Expr} (fails : (Task.evaluate c x).Fails e w failure) :
    ∃ w', e.Closes (.evaluate c x) w [] w' := by
  obtain ⟨w', leaves⟩ := fails.exists_leaves
  have still := (e.evaluator.obeys_evaluate (p := .quiet) c x).any_eq leaves
  exact ⟨w', closes_still ⟨_, leaves⟩ (Conduct.tidy.refl w) still⟩

theorem Raises.closes {o : Origin} {raised : Failure} (h : e.Raises task w o raised) :
    ∃ w', e.Closes task w [] w' := by
  cases h with
  | call found callee arguments block fails =>
    exact closes_evaluate (Raises.call found callee arguments block fails).fails
  | @transformed depth tag body captured arguments rs c _ _ w₁ done fails =>
    have texts := (Run.obeys_each (p := .tidy) (fun a => ((e.tidies depth).handlers tag).value a c)
      _).done done
    obtain ⟨w', called⟩ := Run.fails_iff.1 (Body.fails_callTexts.2 ⟨_, fails, rfl⟩)
    have still := (body.obeys_callTexts (p := .quiet) captured _).any_eq called
    let raised' := (Origin.filter (body.block e.host captured (rs.map (·.text))).1).fault raised
    let cause := Cause.renderingFailed (Value.pending body captured arguments).kind
    refine ⟨w', closes_still ⟨Failure.wrapped cause (.fault raised'), ?_⟩ texts still⟩
    rw [Task.Leaves, renderValue]
    refine Run.wrap_failed (Run.bind_failed done ?_) _
    exact Run.bind_failed_left called _
  | @script depth tag v name captured c failure _ w' is comes =>
    have before := comes.done ((e.tidies depth).handlers tag)
    exact ⟨w', closes_still ⟨_, renderValue_failed_of_script is comes.run_eq⟩ before rfl⟩

/-- When a tag fails, it fails after the tags that were open behind it. -/
theorem closes_visit {head : Head} {form : Form} {state : TagState} {opened : List Tag}
    (leaves : ∃ failure, (Task.visit depth head form c).Leaves e w failure
      (w₁.moved (w.newTag head form) .failed))
    (attends : w.Attends w₁ (w.newTag head form) state) (leads : state.leads .failed = true)
    (settled : w₁.Settled ((w.newTag head form).id + 1) opened) :
    e.Closes (.visit depth head form c) w (w.newTag head form :: opened)
      (w₁.moved (w.newTag head form) .failed) := by
  have failed := attends.moved leads
  exact ⟨leaves, failed.orderly, failed.settled_failed (settled.moved (Nat.lt_succ_self _))⟩

theorem Breaks.closes {raised : Failure} (h : e.Breaks task w raised) :
    ∃ w', e.Closes task w [] w' := by
  cases h with
  | variableTag items comes =>
    refine ⟨_, closes_still ⟨raised, ?_⟩ (comes.done fun u => (e.tidies _).variableTag _ u _) rfl⟩
    show e.renderVariable _ _ _ _ w = (.failed raised, _)
    simp only [renderVariable, items]
    exact Run.bind_failed_left comes.failed _
  | sectionTag inverted items comes =>
    refine ⟨_, closes_still ⟨raised, ?_⟩ (comes.done fun u => (e.tidies _).item _ u _) rfl⟩
    show e.renderSection _ _ _ _ w = (.failed raised, _)
    simp only [renderSection, inverted, items]
    exact Run.bind_failed_left comes.failed _
  | value items comes =>
    refine ⟨_, closes_still ⟨raised, ?_⟩ (comes.done fun u => (e.tidies _).value _ u _) rfl⟩
    show e.renderValue _ _ _ _ w = (.failed raised, _)
    rw [renderValue_of_items _ items]
    exact Run.bind_failed_left comes.failed _

theorem Refuses.closes {refused : Failure} (h : e.Refuses task w refused) :
    ∃ w', e.Closes task w (task.newTag? w).toList w' := by
  cases h with
  | name found => exact closes_evaluate (Refuses.name (e := e) (w := w) found).fails
  | key found error => exact closes_evaluate (Refuses.key found error).fails
  | callee found fails => exact closes_evaluate (Refuses.callee found fails).fails
  | argument found callee comes evaluated fails =>
    exact closes_evaluate (Refuses.argument found callee comes evaluated fails).fails
  | @unresolved depth head form c v _ w₁ found missing =>
    have resolved : e.resolve (w.newTag head form) c w.opened =
        (.failed (.fault ⟨.unresolved head.expression.text, none⟩), w₁) := by
      rw [resolve]
      refine Run.bind_failed found ?_
      rw [if_pos missing]
      rfl
    obtain ⟨orderly, settled⟩ := (e.evaluator.obeys_evaluate (p := .tidy) c _).done found
    have attends := (w.attends_opened head form).later orderly
    exact ⟨_, closes_visit ⟨_, visit_failed resolved⟩ attends rfl settled⟩
  | unwritable items plain fails =>
    obtain ⟨w', failed⟩ := Run.fails_iff.1 fails
    have still := (obeys_leaf (p := .quiet) _).any_eq failed
    refine ⟨w', closes_still ⟨refused, ?_⟩ (Conduct.tidy.refl w) still⟩
    exact (congrFun (renderValue_leaf e items plain _ _ _) w).trans failed
  | @truth depth tag v c error _ asked raised =>
    refine ⟨w, closes_still ⟨.host error, ?_⟩ (Conduct.tidy.refl w) rfl⟩
    exact congrFun (renderSection_untold e asked raised depth c) w
  | sequence breaks =>
    have none : task.newTag? w = none := by cases breaks <;> rfl
    rw [none]
    exact breaks.closes
  | @answered depth tag label name captured c answer failure _ w₁ done fails =>
    have before := (Script.obeys_run ((e.tidies depth).handlers tag) _).done done
    obtain ⟨w', failed⟩ := Run.fails_iff.1 fails
    have still := (obeys_answered (p := .quiet) label answer).any_eq failed
    refine ⟨w', closes_still ⟨refused, ?_⟩ before still⟩
    rw [Task.Leaves, renderValue]
    exact Run.bind_failed (Run.onFailure_eq_done.2 done) failed

/-- A failure closes all tags that are open on its way. -/
theorem OpenAt.closes {opened : List Tag} (h : e.OpenAt task w opened)
    (reach : e.FaultsReachTags task w) : ∃ w', e.Closes task w opened w' := by
  induction h with
  | raises raises => exact raises.closes
  | refuses refuses => exact refuses.closes
  | @enter task inner opened w w₁ enters _ ih =>
    obtain ⟨w', ⟨failure, left⟩, orderly, settled⟩ := ih (reach.enters enters)
    have leaves := enters.leaves left
    cases task with
    | visit depth head form c =>
      have fault : ∃ f, failure = .fault f := by
        cases failure with
        | fault f => exact ⟨f, rfl⟩
        | host error => exact absurd leaves.fails (reach _ _ _ _ _ _ error .here)
      obtain ⟨f, rfl⟩ := fault
      cases enters with
      | expression =>
        have attends := (w.attends_opened head form).later orderly
        exact ⟨_, closes_visit ⟨_, leaves⟩ attends rfl settled⟩
      | ofTag resolved =>
        have attends := (attends_readied resolved).later orderly
        exact ⟨_, closes_visit ⟨_, leaves⟩ attends rfl (settled_behind resolved orderly settled)⟩
    | _ => exact ⟨_, closes_after ⟨_, leaves⟩ (enters.tidy rfl) orderly settled⟩

/-! ## Whole renderings -/

end Engine

end Stencil
