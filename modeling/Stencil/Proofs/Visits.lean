-- The tags that a rendering visits, and in which contexts. Where renderables keep to the tags that
-- they render and only push scopes, these are the tags of the template, in contexts that lie over
-- the outer one. When a rendering says that something has no value or is no filter, then a part of
-- the expression of a visited tag has come to such a value, or something of the host has said so.
import Mathlib
import Stencil.Proofs.Mentions
import Stencil.Proofs.Reach
import Stencil.Proofs.Throughout
import Stencil.Template.Names

namespace Stencil

/-! ## Callees -/

namespace Expr

theorem mem_callees {e f : Expr} : f ∈ e.callees ↔ ∃ a rest, call f a rest ∈ e.parts := by
  simp only [callees, List.mem_filterMap]
  constructor
  · rintro ⟨x, hx, is⟩
    cases x with
    | call g a rest =>
      cases is
      exact ⟨a, rest, hx⟩
    | _ => cases is
  · rintro ⟨a, rest, h⟩
    exact ⟨_, h, rfl⟩

end Expr

variable {σ : Type}

namespace Engine

variable {e : Engine σ} {task task' : Task} {w w' : World σ} {heads : List Head}

/-! ## Visits -/

/-- When the template is rendered in the first context, the engine comes to a tag with this head in
the second context. -/
def Visits (e : Engine σ) (t : Template) (c : Context) (w : World σ) (head : Head) (d : Context) :
    Prop :=
  ∃ heads depth form w', e.Descends (.nodes deepest t c) w heads (.visit depth head form d) w'

/-- When the template is rendered in the context, a function, a renderable or a sequence raises the
failure. -/
def Meets (e : Engine σ) (t : Template) (c : Context) (w : World σ) (raised : Failure) : Prop :=
  ∃ heads task w', e.Descends (.nodes deepest t c) w heads task w' ∧
    ((∃ o, e.Raises task w' o raised) ∨ e.Breaks task w' raised)

/-- An expression is evaluated for a whole of which it is a part, or for a tag. -/
theorem Enters.of_evaluate {d : Context} {x : Expr} (h : e.Enters task w task' w')
    (is : task' = .evaluate d x) :
    (∃ y, task = .evaluate d y ∧ x ∈ y.parts) ∨
      ∃ depth head form, task = .visit depth head form d ∧ x = head.expression := by
  cases h with
  | expression =>
    cases is
    exact .inr ⟨_, _, _, rfl, rfl⟩
  | base =>
    cases is
    exact .inl ⟨_, rfl, List.mem_cons_of_mem _ x.self_mem_parts⟩
  | callee =>
    cases is
    exact .inl ⟨_, rfl, Expr.callee_mem_parts⟩
  | callArgument _ _ comes =>
    cases is
    exact .inl ⟨_, rfl, Expr.argument_mem_parts (mem_of_comes comes)⟩
  | ofTag =>
    unfold Task.ofTag at is
    split at is <;> cases is
  | argument =>
    unfold Task.rendered at is
    split at is <;> cases is
  | @request _ _ _ _ _ _ s _ _ _ _ _ asked =>
    rw [is] at asked
    cases s with
    | content =>
      simp only [Task.ofRequest, Option.ite_none_right_eq_some, Option.some.injEq] at asked
      cases asked.2
    | value =>
      simp only [Task.ofRequest, Task.rendered, Option.some.injEq] at asked
      split at asked <;> cases asked
    | _ => cases asked
  | _ => cases is

/-- Whatever is evaluated is a part of the expression of a tag that was visited before. -/
theorem Descends.exists_visit (h : e.Descends task w heads task' w') {d : Context} {x : Expr}
    (is : task' = .evaluate d x) :
    (∃ y, task = .evaluate d y ∧ x ∈ y.parts) ∨
      ∃ before depth head form w₁, e.Descends task w before (.visit depth head form d) w₁ ∧
        x ∈ head.expression.parts := by
  induction h with
  | here => exact .inl ⟨x, is, x.self_mem_parts⟩
  | @enter task inner task' heads w w₁ w' enters _ ih =>
    rcases ih is with ⟨y, rfl, hx⟩ | ⟨before, depth, head, form, w₂, descends, hx⟩
    · rcases enters.of_evaluate rfl with ⟨z, rfl, hy⟩ | ⟨depth, head, form, rfl, rfl⟩
      · exact .inl ⟨z, rfl, Expr.parts_subset hy hx⟩
      · exact .inr ⟨_, depth, head, form, w, .here, hx⟩
    · exact .inr ⟨_, depth, head, form, w₂, .enter enters descends, hx⟩

end Engine

/-! ## Values that will not do -/

namespace Cause

/-- The cause says that something has no value, or that something is called that is no filter. -/
def Misses (c : Cause) : Prop :=
  c.kind = .unresolved ∨
    c.kind = .mismatch ∧ ∃ callee kind, c.message = (Cause.notFilter callee kind).message

/-- That a renderable answers with no rendering is said in other words. -/
theorem not_misses_notRendering (label answer : String) : ¬ (notRendering label answer).Misses := by
  rintro (unresolved | ⟨_, callee, kind, same⟩)
  · cases unresolved
  · have words : s!"{label}.render returned {answer}, expected a Rendering" =
        s!"'{callee}' is not a filter (got {kind})" := same
    simp only [toString] at words
    have last := congrArg (fun s => s.toList.getLast?) words
    simp only [String.toList_append] at last
    rw [List.getLast?_append_of_ne_nil, List.getLast?_append_of_ne_nil] at last
    · exact absurd last (by decide)
    all_goals decide

theorem not_misses_cause (o : Origin) (error : HostError) : ¬ (o.cause error).Misses := by
  rintro (unresolved | ⟨mismatch, _⟩)
  · cases o <;> cases unresolved
  · cases o <;> cases mismatch

end Cause

theorem Task.cause_onward {task : Task} {failure : Failure} {f : Fault}
    (h : task.onward failure = .fault f) :
    (∃ inner, failure = .fault inner ∧ f.cause = inner.cause) ∨
      ∃ kind error, f.cause = .renderingFailed kind error := by
  cases failure with
  | fault inner =>
    refine .inl ⟨inner, rfl, ?_⟩
    cases task with
    | visit depth head form c =>
      cases h
      rfl
    | value depth tag v c =>
      cases renderable : v.isRenderable <;> simp only [Task.onward, renderable] at h <;> cases h <;>
        rfl
    | _ =>
      cases h
      rfl
  | host error =>
    refine .inr ?_
    cases task with
    | value depth tag v c =>
      cases renderable : v.isRenderable <;> simp only [Task.onward, renderable] at h <;> cases h
      exact ⟨_, _, rfl⟩
    | _ => cases h

namespace Engine

variable {e : Engine σ} {task task' : Task} {w w' : World σ} {heads : List Head}

/-- The fault that leaves has the cause of what went wrong on the way, unless it wraps an error. -/
theorem Descends.exists_fails (h : e.Descends task w heads task' w') {failure : Failure}
    (fails : task'.Fails e w' failure) :
    ∃ outer, task.Fails e w outer ∧ ∀ f, outer = .fault f →
      (∃ inner, failure = .fault inner ∧ f.cause = inner.cause) ∨
        ∃ kind error, f.cause = .renderingFailed kind error := by
  induction h with
  | here =>
    refine ⟨failure, fails, ?_⟩
    rintro f rfl
    exact .inl ⟨f, rfl, rfl⟩
  | @enter task _ _ _ _ _ _ enters _ ih =>
    obtain ⟨outer, stopped, causes⟩ := ih fails
    refine ⟨_, enters.fails stopped, fun f left => ?_⟩
    rcases Task.cause_onward left with ⟨inner, rfl, same⟩ | wrapped
    · rw [same]
      exact causes inner rfl
    · exact .inr wrapped

/-- A fault that misses something has the cause of whatever has gone wrong on the way. -/
theorem Descends.exists_cause (h : e.Descends task w heads task' w') {f : Fault}
    (fails : task.Fails e w (.fault f)) (misses : f.cause.Misses) {failure : Failure}
    (stopped : task'.Fails e w' failure) :
    ∃ inner, failure = .fault inner ∧ f.cause = inner.cause := by
  obtain ⟨outer, left, causes⟩ := h.exists_fails stopped
  obtain rfl : outer = .fault f := by
    cases task <;> exact Outcome.failed.inj (left.symm.trans fails)
  rcases causes f rfl with found | ⟨kind, error, wrapped⟩
  · exact found
  · rw [wrapped] at misses
    exact absurd misses (Cause.not_misses_cause (.renderable kind) error)

/-- In the context, the expression has come to a value that will not do: it is called and is no
filter, or it has no value and the engine is strict. -/
inductive Lacks (e : Engine σ) (d : Context) (head : Head) : Expr → Cause → Prop
  | callee {f : Expr} {v : Value} {w w' : World σ} : f ∈ head.expression.callees →
    e.evaluator.evaluate d f w = (.done v, w') → v.isMissing = true →
    Lacks e d head f (.unresolved f.text)
  | notFilter {f : Expr} {v : Value} {w w' : World σ} : f ∈ head.expression.callees →
    e.evaluator.evaluate d f w = (.done v, w') → (∀ filter captured, v ≠ .filter filter captured) →
    Lacks e d head f (.notFilter f.text v.kind)
  | value {x : Expr} {v : Value} {w w' : World σ} : x ∈ head.expression.parts →
    e.evaluator.evaluate d x w = (.done v, w') → v.isMissing = true → e.policy = .fail →
    Lacks e d head x (.unresolved x.text)

theorem fails_callee {f : Expr} {v : Value} {failure : Failure}
    (h : (Evaluator.callee f v : Run σ _).Fails w failure) :
    (v.isMissing = true ∧ failure = .fault ⟨.unresolved f.text, none⟩) ∨
      (∀ filter captured, v ≠ .filter filter captured) ∧
        failure = .fault ⟨.notFilter f.text v.kind, none⟩ := by
  cases v with
  | filter g captured => exact absurd h Run.not_fails_pure
  | missing => exact .inl ⟨rfl, Run.fails_fail.1 h⟩
  | _ => exact .inr ⟨nofun, Run.fails_fail.1 h⟩

theorem fails_argument {x : Expr} {v : Value} {failure : Failure}
    (h : (e.evaluator.argument x v).Fails w failure) :
    v.isMissing = true ∧ e.policy = .fail ∧ failure = .fault ⟨.unresolved x.text, none⟩ := by
  unfold Evaluator.argument at h
  split at h
  · rename_i missing
    split at h
    · exact absurd h Run.not_fails_pure
    · rename_i strict
      exact ⟨missing, strict, Run.fails_fail.1 h⟩
  · exact absurd h Run.not_fails_pure

theorem not_fails_leaf {v : Value} {f : Fault} :
    ¬ (leaf v : Run σ Rendering).Fails w (.fault f) := by
  unfold leaf
  split
  · exact Run.not_fails_pure
  · exact Run.not_fails_pure
  · exact Run.not_fails_pure
  · exact Run.not_fails_pure
  · split
    · exact Run.not_fails_pure
    · intro h
      obtain ⟨error, _, host⟩ := Run.fails_ofExcept.1 (Run.fails_bind_pure.1 h)
      cases host

theorem cause_of_answered {label : String} {answer : Answer} {f : Fault}
    (h : (answered label answer : Run σ Rendering).Fails w (.fault f)) :
    ∃ kind, f.cause = .notRendering label kind := by
  unfold answered at h
  split at h
  · exact absurd h Run.not_fails_pure
  · split at h
    · exact absurd h Run.not_fails_pure
    · exact absurd h Run.not_fails_pure
    · exact absurd h Run.not_fails_pure
    · cases Run.fails_fail.1 h
      exact ⟨_, rfl⟩

/-- When a rendering says that something has no value or is no filter, then something of the host
has said so, or in a tag that was visited something has come to a value that will not do. -/
theorem exists_lacks {t : Template} {c : Context} {f : Fault}
    (fails : (e.render t c w).1 = .failed (.fault f)) (misses : f.cause.Misses) :
    (∃ raised, e.Meets t c w (.fault raised) ∧ raised.cause = f.cause) ∨
      ∃ head d x, e.Visits t c w head d ∧ e.Lacks d head x f.cause := by
  have failed : Task.Fails e w (.fault f) (.nodes deepest t c) := fails
  obtain ⟨heads, task, w', descends, ⟨o, raised, raises⟩ | ⟨refused, refuses⟩⟩ :=
    exists_descends failed
  · refine .inl ?_
    obtain ⟨inner, same, cause⟩ := descends.exists_cause failed misses raises.fails
    obtain rfl := Failure.fault.inj same
    cases raised with
    | fault raised => exact ⟨raised, ⟨heads, task, w', descends, .inl ⟨o, raises⟩⟩, cause.symm⟩
    | host error =>
      rw [cause] at misses
      exact absurd misses (Cause.not_misses_cause o error)
  · obtain ⟨left, same, cause⟩ := descends.exists_cause failed misses refuses.fails
    obtain ⟨inner, rfl, own⟩ : ∃ inner, refused = .fault inner ∧ f.cause = inner.cause := by
      rcases Task.cause_onward same with ⟨inner, rfl, own⟩ | ⟨kind, error, wrapped⟩
      · exact ⟨inner, rfl, cause.trans own⟩
      · rw [cause, wrapped] at misses
        exact absurd misses (Cause.not_misses_cause (.renderable kind) error)
    rw [own]
    rw [own] at misses
    have evaluated {d : Context} {x : Expr} (is : task = .evaluate d x) :
        ∃ head, e.Visits t c w head d ∧ x ∈ head.expression.parts := by
      rcases descends.exists_visit is with ⟨y, h, _⟩ | ⟨before, depth, head, form, w₁, visits, hx⟩
      · cases h
      · exact ⟨head, ⟨before, depth, form, w₁, visits⟩, hx⟩
    cases refuses with
    | sequence breaks => exact .inl ⟨inner, ⟨heads, task, w', descends, .inr breaks⟩, rfl⟩
    | @callee d g a rest v _ _ _ found fails =>
      refine .inr ?_
      obtain ⟨head, visits, part⟩ := evaluated rfl
      have called := Expr.mem_callees.2 ⟨a, rest, part⟩
      rcases fails_callee fails with ⟨missing, same⟩ | ⟨noFilter, same⟩ <;> cases same
      · exact ⟨head, d, g, visits, .callee called found missing⟩
      · exact ⟨head, d, g, visits, .notFilter called found noFilter⟩
    | @argument d g a x rest v u filter _ _ _ _ _ _ found callee comes evaluates fails =>
      refine .inr ?_
      obtain ⟨head, visits, part⟩ := evaluated rfl
      obtain ⟨missing, strict, same⟩ := fails_argument fails
      cases same
      have within := Expr.parts_subset part (Expr.argument_mem_parts (mem_of_comes comes))
      exact ⟨head, d, x, visits, .value within evaluates missing strict⟩
    | @unresolved depth head form d v _ _ found missing =>
      obtain ⟨missing, strict⟩ := Bool.and_eq_true_iff.1 missing
      exact .inr ⟨head, d, _, ⟨heads, depth, form, w', descends⟩,
        .value (Expr.self_mem_parts _) found missing (of_decide_eq_true strict)⟩
    | unwritable _ _ fails => exact absurd fails not_fails_leaf
    | answered _ fails =>
      obtain ⟨kind, answered⟩ := cause_of_answered fails
      rw [answered] at misses
      exact absurd misses (Cause.not_misses_notRendering _ _)

end Engine

/-! ## Renderables that keep to their tags -/

/-- Whatever the script asks for, it asks for the content of its tag or for values, in contexts that
lie over the given one. -/
def Script.Stays (c : Context) : Script σ → Prop
  | .done _ | .fail _ => True
  | .content d next => c.scopes <:+ d.scopes ∧ ∀ r, (next r).Stays c
  | .value _ d next => c.scopes <:+ d.scopes ∧ ∀ r, (next r).Stays c
  | .template .. => False
  | .escape _ next => ∀ s, (next s).Stays c
  | .state next => ∀ s, (next s).Stays c
  | .outside _ next => ∀ o, (next o).Stays c

theorem Script.ComesTo.stays {h : Handlers σ} {s s' : Script σ} {w w' : World σ} {c : Context}
    (comes : s.ComesTo h w s' w') (stays : s.Stays c) : s'.Stays c := by
  induction comes with
  | here => exact stays
  | content _ _ ih | value _ _ ih => exact ih (stays.2 _)
  | template => exact stays.elim
  | escape _ ih | state _ _ ih | outside _ ih => exact ih (stays _)

/-- Every renderable of the host keeps to its tag and its context. -/
def Host.Stays (host : Host σ) : Prop :=
  ∀ name captured tag c, (host.script name captured tag c).Stays c

/-- The tags of which a task may be the rendering are tags of the template, and its context lies
over the given one. -/
def Task.Within (t : Template) (c : Context) : Task → Prop
  | .nodes _ u d => u.heads ⊆ t.heads ∧ c.scopes <:+ d.scopes
  | .visit _ head form d =>
    head ∈ t.heads ∧ (∀ id, (Tag.mk id head form).children.heads ⊆ t.heads) ∧ c.scopes <:+ d.scopes
  | .variableTag _ tag _ d | .sectionTag _ tag _ d | .item _ tag _ d | .value _ tag _ d =>
    tag.children.heads ⊆ t.heads ∧ c.scopes <:+ d.scopes
  | .evaluate d _ => c.scopes <:+ d.scopes

namespace Task

variable {t : Template} {c d : Context} {depth : Nat} {tag : Tag} {v : Value}

theorem within_ofTag (h : tag.children.heads ⊆ t.heads ∧ c.scopes <:+ d.scopes) :
    (ofTag depth tag v d).Within t c := by
  unfold ofTag
  split <;> exact h

theorem within_rendered (h : tag.children.heads ⊆ t.heads ∧ c.scopes <:+ d.scopes) :
    (rendered depth tag v d).Within t c := by
  unfold rendered
  split <;> exact h

end Task

namespace Engine

variable {e : Engine σ} {t : Template} {c : Context}

/-- A rendering of the template visits no other tags than those of the template, in contexts that
lie over the outer one. -/
def KeepsTo (e : Engine σ) (t : Template) (c : Context) (w : World σ) : Prop :=
  ∀ head d, e.Visits t c w head d → head ∈ t.heads ∧ c.scopes <:+ d.scopes

theorem Enters.within (stays : e.host.Stays) {task task' : Task} {w w' : World σ}
    (within : task.Within t c) (h : e.Enters task w task' w') : task'.Within t c := by
  have pushed {d : Context} (v : Value) (above : c.scopes <:+ d.scopes) :
      c.scopes <:+ (d.push v []).scopes := above.trans (List.suffix_cons _ _)
  cases h with
  | @node _ u d n head form _ _ comes is =>
    obtain ⟨subset, above⟩ := within
    have member := mem_of_comes comes
    cases n with
    | text s => cases is
    | variableTag head escaped =>
      cases is
      exact ⟨subset (Template.mem_heads member rfl), fun _ => List.nil_subset _, above⟩
    | sectionTag head inverted children inner =>
      cases is
      exact ⟨subset (Template.mem_heads member rfl),
        fun _ => List.Subset.trans (Template.heads_children_subset member) subset, above⟩
  | expression => exact within.2.2
  | ofTag => exact Task.within_ofTag ⟨within.2.1 _, within.2.2⟩
  | itemNodes => exact ⟨within.1, pushed _ within.2⟩
  | @request _ tag _ name captured d s _ _ _ _ comes asked =>
    have kept := comes.stays (stays name captured tag d)
    cases s with
    | content d' next =>
      simp only [Task.ofRequest, Option.ite_none_right_eq_some, Option.some.injEq] at asked
      obtain ⟨_, rfl⟩ := asked
      exact ⟨within.1, within.2.trans kept.1⟩
    | value u d' next =>
      cases asked
      exact Task.within_rendered ⟨within.1, within.2.trans kept.1⟩
    | template u d' next => exact kept.elim
    | _ => cases asked
  | argument => exact Task.within_rendered within
  | position => exact ⟨within.1, pushed _ (pushed _ within.2)⟩
  | _ => exact within

/-- Where renderables keep to their tags, every rendering keeps to its template. -/
theorem keepsTo_of_stays (stays : e.host.Stays) (t : Template) (c : Context) (w : World σ) :
    e.KeepsTo t c w := by
  rintro head d ⟨heads, depth, form, w', descends⟩
  have within : Task.Within t c (.visit depth head form d) :=
    descends.holds (fun _ _ _ _ inside enters => enters.within stays inside)
      ⟨List.Subset.refl _, List.suffix_rfl⟩
  exact ⟨within.1, within.2.2⟩

end Engine

/-! ## Templates without sections -/

theorem Node.exists_of_tag?_of_depth {n : Node} {head : Head} {form : Form}
    (h : n.tag? = some (head, form)) (flat : n.depth = 0) :
    ∃ escaped, form = .variableTag escaped := by
  cases n with
  | text s => cases h
  | variableTag head escaped =>
    cases h
    exact ⟨escaped, rfl⟩
  | sectionTag head inverted children inner =>
    rw [Node.depth] at flat
    omega

theorem Template.depth_le {t : Template} {n : Node} (h : n ∈ t) : n.depth ≤ t.depth := by
  show n.depth ≤ Node.depthList t
  induction t with
  | nil => cases h
  | cons m rest ih =>
    rw [Node.depthList]
    rcases List.mem_cons.1 h with rfl | h
    · exact Nat.le_max_left _ _
    · exact (ih h).trans (Nat.le_max_right _ _)

/-- The task renders no section, and visits tags in this context only. -/
def Task.Flat (c : Context) : Task → Prop
  | .nodes _ t d => t.depth = 0 ∧ d = c
  | .visit _ _ form d => (∃ escaped, form = .variableTag escaped) ∧ d = c
  | .variableTag _ tag _ _ | .value _ tag _ _ => tag.isSection = false
  | .sectionTag .. | .item .. => False
  | .evaluate .. => True

theorem Task.flat_rendered {depth : Nat} {tag : Tag} {v : Value} {c d : Context}
    (h : tag.isSection = false) : (rendered depth tag v d).Flat c := by
  rw [rendered, if_neg (by simp [h])]
  exact h

namespace Engine

variable {e : Engine σ} {t : Template} {c : Context}

theorem Enters.flat (stays : e.host.Stays) {task task' : Task} {w w' : World σ}
    (flat : task.Flat c) (h : e.Enters task w task' w') : task'.Flat c := by
  cases h with
  | node comes is =>
    have depth := Template.depth_le (mem_of_comes comes)
    rw [flat.1] at depth
    exact ⟨Node.exists_of_tag?_of_depth is (Nat.le_zero.1 depth), flat.2⟩
  | ofTag =>
    obtain ⟨⟨escaped, rfl⟩, rfl⟩ := flat
    exact rfl
  | inverted | sectionItem | sectionValue | itemValue | itemNodes => exact flat.elim
  | @request _ tag _ name captured d s _ _ _ _ comes asked =>
    have whole : tag.isSection = false := flat
    cases s with
    | content d' next => simp [Task.ofRequest, whole] at asked
    | value u d' next =>
      cases asked
      exact Task.flat_rendered whole
    | template u d' next => exact (comes.stays (stays name captured tag d)).elim
    | _ => cases asked
  | argument => exact Task.flat_rendered flat
  | position is =>
    have whole : _ = false := flat
    rw [is] at whole
    cases whole
  | expression | base | callee | callArgument => trivial
  | _ => exact flat

/-- Where renderables keep to their tags, a template without sections is rendered in one context. -/
theorem Visits.eq_of_flat (stays : e.host.Stays) (flat : t.depth = 0) {w : World σ} {head : Head}
    {d : Context} (h : e.Visits t c w head d) : d = c := by
  obtain ⟨heads, depth, form, w', descends⟩ := h
  have visit : Task.Flat c (.visit depth head form d) :=
    descends.holds (fun _ _ _ _ inside enters => enters.flat stays inside) ⟨flat, rfl⟩
  exact visit.2

end Engine

theorem Host.none_stays : Host.none.Stays := fun _ _ _ _ => trivial

/-! ## Hosts that miss nothing -/

/-- If the script fails by itself, then not because something misses. -/
def Script.Quiet : Script σ → Prop
  | .done _ => True
  | .fail failure => ∀ f, failure = .fault f → ¬ f.cause.Misses
  | .content _ next | .value _ _ next => ∀ r, (next r).Quiet
  | .template _ _ next | .escape _ next => ∀ s, (next s).Quiet
  | .state next => ∀ s, (next s).Quiet
  | .outside _ next => ∀ o, (next o).Quiet

theorem Script.ComesTo.quiet {h : Handlers σ} {s s' : Script σ} {w w' : World σ}
    (comes : s.ComesTo h w s' w') (quiet : s.Quiet) : s'.Quiet := by
  induction comes with
  | here => exact quiet
  | content _ _ ih | value _ _ ih | template _ _ ih | escape _ ih | state _ _ ih | outside _ ih =>
    exact ih (quiet _)

/-- No function and no renderable of the host says that something misses. -/
structure Host.Quiet (host : Host σ) : Prop where
  call : ∀ name captured arguments o f,
    (host.call name captured arguments o).1 = .error (.fault f) → ¬ f.cause.Misses
  script : ∀ name captured tag c, (host.script name captured tag c).Quiet

theorem Host.fails_run {host : Host σ} {name : String} {captured arguments : List Value}
    {w : World σ} {failure : Failure} (h : (host.run name captured arguments).Fails w failure) :
    (host.call name captured arguments w.outside).1 = .error failure := by
  simp only [Host.run, Run.Fails] at h
  rcases called : host.call name captured arguments w.outside with ⟨error | value, o⟩ <;>
    rw [called] at h <;> cases h
  rfl

/-- A function of the library fails with an error of its own, or with the failure that its argument
raises when it is gone through. -/
theorem ValueFunction.exists_of_fails {f : ValueFunction} {arguments : List Value} {w : World σ}
    {failure : Failure} (h : (f.call arguments : Run σ Value).Fails w failure) :
    (∃ error, failure = .host error) ∨
      ∃ v ∈ arguments, ∃ items, v.items? = some items ∧ items.ending? = some failure := by
  unfold call at h
  split at h
  · rename_i v
    unfold apply at h
    split at h
    · cases f with
      | isEmpty | isBlank => exact absurd h Run.not_fails_pure
      | each =>
        have drawn := Run.fails_bind_pure.1 h
        unfold Library.each at drawn
        split at drawn
        · exact absurd drawn Run.not_fails_pure
        · exact absurd drawn Run.not_fails_pure
        · exact absurd drawn Run.not_fails_pure
        · split at drawn
          · rename_i items is
            rcases Run.fails_eachItem.1 (Run.fails_bind_pure.1 drawn) with ⟨_, _, _, no⟩ | ⟨_, ends⟩
            · exact absurd no Run.not_fails_pure
            · exact .inr ⟨v, List.mem_singleton_self v, items, is, ends.ending⟩
          · exact .inl ⟨_, Run.fails_fail.1 drawn⟩
    · exact .inl ⟨_, Run.fails_fail.1 h⟩
  · exact .inl ⟨_, Run.fails_fail.1 h⟩
  · exact .inl ⟨_, Run.fails_fail.1 h⟩

/-- When the value is gone through, it does not say that something misses. -/
def Value.Calm (v : Value) : Prop :=
  ∀ items f, v.items? = some items → items.ending? = some (.fault f) → ¬ f.cause.Misses

/-- The values of the context, and all to which they lead, are calm. -/
def Host.Calm (host : Host σ) (c : Context) : Prop :=
  ∃ P, host.Encloses P (fun _ => True) ∧ host.EnclosesRenderables P (fun _ => True) ∧ c.Holds P ∧
    ∀ v, P v → v.Calm

namespace Engine

variable {e : Engine σ} {t : Template} {c : Context}

/-- With a quiet host and calm values, only the engine itself says that something misses. -/
theorem not_misses_of_quiet (quiet : e.host.Quiet) (calm : e.host.Calm c) {w : World σ}
    {raised : Fault} (h : e.Meets t c w (.fault raised)) : ¬ raised.cause.Misses := by
  obtain ⟨P, encloses, renderables, hc, calm⟩ := calm
  obtain ⟨heads, task, w', descends, raises⟩ := h
  have inside := descends.enclosed encloses renderables ⟨fun _ _ => trivial, hc⟩
  rcases raises with ⟨o, raises⟩ | breaks
  · cases raises with
    | @call d f a rest v filter captured arguments _ block _ _ _ _ _ _ _ done is fails =>
      cases filter with
      | generic body =>
        cases body with
        | library function =>
          cases is
          rcases ValueFunction.exists_of_fails fails with ⟨error, host⟩ | ⟨u, hu, items, is, ends⟩
          · cases host
          · have given : Run.Gives _ (e.evaluator.evaluateArguments d (a :: rest)) :=
              Evaluator.encloses_evaluateArguments encloses inside.2 (a :: rest)
                fun _ _ _ _ => trivial
            rw [Evaluator.evaluateArguments_eq] at given
            exact calm u (given.done done u hu) items raised is ends
        | host name =>
          cases is
          exact quiet.call _ _ _ _ _ (Host.fails_run fails)
      | textual body => cases is
      | variadic name | custom label name =>
        cases is
        exact quiet.call _ _ _ _ _ (Host.fails_run fails)
    | @transformed _ _ body _ _ _ _ _ _ _ _ fails =>
      cases body with
      | library function =>
        obtain ⟨error, _, host⟩ := Run.fails_ofExcept.1 fails
        cases host
      | host name => exact quiet.call _ _ _ _ _ (Host.fails_run fails)
    | script _ comes => exact comes.quiet (quiet.script _ _ _ _) raised rfl
  · cases breaks with
    | variableTag items ends | sectionTag _ items ends =>
      exact calm _ inside.1 _ raised items ends.ending
    | value items ends =>
      exact calm _ inside.1 _ raised (Value.items?_of_joined items) ends.ending

end Engine

theorem Host.none_quiet : Host.none.Quiet where
  call := by
    intro _ _ _ _ _ h
    cases h
  script _ _ _ _ := trivial

theorem Value.ordinary_calm : Value.Ordinary Value.Calm := by
  constructor <;> intros <;> intro items f is raises <;> cases is
  cases raises

theorem Host.none_calm {c : Context} (h : c.Throughout Value.Calm) : Host.none.Calm c := by
  have pending : Value.KeepsPending Value.Calm := fun _ _ _ _ _ _ is => nomatch is
  have keeps : Host.none.Keeps Value.Calm := fun _ _ _ _ _ _ _ _ _ _ called => nomatch called
  refine ⟨(·.Throughout Value.Calm), keeps.encloses Value.ordinary_calm pending,
    ⟨fun h => ?_, fun h a ha => h.part (List.mem_append_right _ ha), fun h => ?_,
      fun _ _ _ => nofun⟩, h, fun v hv => hv.self⟩
  · exact ⟨h.part List.mem_cons_self, Value.throughout_position Value.ordinary_calm
      (h.part (List.mem_cons_of_mem _ List.mem_cons_self))⟩
  · rename_i body captured arguments texts
    cases body with
    | library function =>
      exact Run.gives_wrap (Run.ends_ofExcept (fun u called => TextFunction.throughout_call
        Value.ordinary_calm (fun _ _ _ is => nomatch is) called) fun _ _ => trivial)
    | host name => exact Run.gives_wrap fun _ => trivial

/-- Without a host, the standard library and calm data are calm. -/
theorem Press.none_calm {data : Value} (h : data.Throughout Value.Calm) :
    Host.none.Calm ((start {}).context data []) := by
  have globals : (Value.mapping []).Throughout Value.Calm :=
    .mapping Value.ordinary_calm (List.forall_mem_nil _)
  refine Host.none_calm (.ofPress Value.ordinary_calm ?_ h globals)
  exact Library.throughout_standard Value.ordinary_calm fun _ _ _ _ is => nomatch is

/-! ## Faults that the host does not bring about -/

namespace Engine

variable {e : Engine σ} {t : Template} {c : Context} {w : World σ} {P Q : Cause → Prop}

/-- The host brings about no such fault itself: no function, no renderable and no sequence raises
one; and none comes up in another template, nor where a tag does not see the outer scopes, since
only a renderable can have that rendered. -/
structure Unprovoked (e : Engine σ) (t : Template) (c : Context) (w : World σ) (P : Cause → Prop) :
    Prop where
  raised : ∀ f, e.Meets t c w (.fault f) → ¬ P f.cause
  elsewhere : ∀ head d, e.Visits t c w head d → ¬ (head ∈ t.heads ∧ c.scopes ⊆ d.scopes) →
    ∀ x cause, e.Lacks d head x cause → ¬ P cause

theorem Unprovoked.mono (h : e.Unprovoked t c w Q) (weaker : ∀ cause, P cause → Q cause) :
    e.Unprovoked t c w P where
  raised f meets is := h.raised f meets (weaker _ is)
  elsewhere head d visits other x cause lacks is :=
    h.elsewhere head d visits other x cause lacks (weaker _ is)

theorem unprovoked_of_quiet (stays : e.host.Stays) (quiet : e.host.Quiet) (calm : e.host.Calm c)
    (t : Template) (w : World σ) : e.Unprovoked t c w Cause.Misses where
  raised _ := not_misses_of_quiet quiet calm
  elsewhere head d visits other := by
    obtain ⟨own, above⟩ := keepsTo_of_stays stays t c w head d visits
    exact absurd ⟨own, above.subset⟩ other

/-- When a rendering misses something and the host has no part in it, then a tag of the template
lacks it in sight of the outer scopes. -/
theorem Unprovoked.exists_lacks (h : e.Unprovoked t c w P) {f : Fault}
    (fails : (e.render t c w).1 = .failed (.fault f)) (misses : f.cause.Misses) (is : P f.cause) :
    ∃ head d x, e.Visits t c w head d ∧ head ∈ t.heads ∧ c.scopes ⊆ d.scopes ∧
      e.Lacks d head x f.cause := by
  rcases Engine.exists_lacks fails misses with ⟨raised, meets, same⟩ | ⟨head, d, x, visits, lacks⟩
  · exact absurd (same ▸ is) (h.raised raised meets)
  · by_contra none
    refine h.elsewhere head d visits (fun ⟨own, above⟩ => none ?_) x _ lacks is
    exact ⟨head, d, x, visits, own, above, lacks⟩

end Engine

end Stencil
