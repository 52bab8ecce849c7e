-- Templates at other places. A rendering does not look at the places of tags, nor at how many tags
-- were created before it; so if the scripts of the host do not look at them either, a template
-- renders alike wherever its source stands.
import Stencil.Proofs.Beside
import Stencil.Proofs.Places

namespace Stencil

/-! ## What differs in places only -/

namespace Node

mutual

theorem relocate_relocate (f g : Location → Location) (n : Node) :
    (n.relocate f).relocate g = n.relocate (g ∘ f) := by
  cases n with
  | text content => rfl
  | variableTag head escaped => rfl
  | sectionTag head inverted children inner =>
    simp only [relocate, relocateList_relocateList f g children, Function.comp_apply]

theorem relocateList_relocateList (f g : Location → Location) (l : List Node) :
    relocateList g (relocateList f l) = relocateList (g ∘ f) l := by
  cases l with
  | nil => rfl
  | cons n rest =>
    simp only [relocateList, relocate_relocate f g n, relocateList_relocateList f g rest]

end

end Node

/-- The template without its places. -/
def Template.unplaced (t : Template) : Template := t.relocate fun _ => .start none

/-- The templates differ in the places of their tags only. -/
def Template.Alike (t u : Template) : Prop := t.unplaced = u.unplaced

theorem Template.alike_relocate (f : Location → Location) (t : Template) :
    (t.relocate f).Alike t :=
  Node.relocateList_relocateList f _ t

inductive Node.Alike : Node → Node → Prop
  | text {s : String} : Alike (.text s) (.text s)
  | variableTag {head head' : Head} {escaped : Bool} : head.expression = head'.expression →
    Alike (.variableTag head escaped) (.variableTag head' escaped)
  | sectionTag {head head' : Head} {inverted : Bool} {children children' : Template}
    {inner : String} : head.expression = head'.expression → children.Alike children' →
    Alike (.sectionTag head inverted children inner) (.sectionTag head' inverted children' inner)

theorem Node.alike_of_relocate {n m : Node}
    (h : n.relocate (fun _ => .start none) = m.relocate fun _ => .start none) : n.Alike m := by
  cases n with
  | text s =>
    cases m <;> simp only [relocate, Node.text.injEq, reduceCtorEq] at h
    rw [h]
    exact .text
  | variableTag head escaped =>
    cases m <;> simp only [relocate, Node.variableTag.injEq, Head.mk.injEq, reduceCtorEq] at h
    obtain ⟨⟨expression, _⟩, rfl⟩ := h
    exact .variableTag expression
  | sectionTag head inverted children inner =>
    cases m <;> simp only [relocate, Node.sectionTag.injEq, Head.mk.injEq, reduceCtorEq] at h
    obtain ⟨⟨expression, _⟩, rfl, children, rfl⟩ := h
    exact .sectionTag expression children

theorem Template.Alike.nodes {t u : Template} (h : t.Alike u) : List.Forall₂ Node.Alike t u := by
  have maps : t.map (Node.relocate fun _ => .start none) =
      u.map (Node.relocate fun _ => .start none) := by
    rw [← Node.relocateList_eq_map, ← Node.relocateList_eq_map]
    exact h
  clear h
  induction t generalizing u with
  | nil =>
    obtain rfl := List.map_eq_nil_iff.1 maps.symm
    exact .nil
  | cons n rest ih =>
    obtain ⟨m, more, rfl, hm, hmore⟩ := List.map_eq_cons_iff.1 maps.symm
    exact .cons (Node.alike_of_relocate hm.symm) (ih hmore.symm)

inductive Form.Alike : Form → Form → Prop
  | variableTag {escaped : Bool} : Alike (.variableTag escaped) (.variableTag escaped)
  | sectionTag {inverted : Bool} {children children' : Template} {inner : String} :
    children.Alike children' →
    Alike (.sectionTag inverted children inner) (.sectionTag inverted children' inner)

/-- The tags differ in their places and their numbers only. -/
structure Tag.Alike (t u : Tag) : Prop where
  expression : t.head.expression = u.head.expression
  form : t.form.Alike u.form

namespace Tag.Alike

variable {t u : Tag}

theorem isSection (h : t.Alike u) : t.isSection = u.isSection := by
  have form := h.form
  unfold Tag.isSection
  generalize t.form = f, u.form = g at form ⊢
  cases form <;> rfl

theorem isInverted (h : t.Alike u) : t.isInverted = u.isInverted := by
  have form := h.form
  unfold Tag.isInverted
  generalize t.form = f, u.form = g at form ⊢
  cases form <;> rfl

theorem escaped (h : t.Alike u) : t.escaped = u.escaped := by
  have form := h.form
  unfold Tag.escaped
  generalize t.form = f, u.form = g at form ⊢
  cases form <;> rfl

theorem children (h : t.Alike u) : t.children.Alike u.children := by
  have form := h.form
  unfold Tag.children
  generalize t.form = f, u.form = g at form ⊢
  cases form with
  | variableTag => rfl
  | sectionTag h => exact h

end Tag.Alike

/-! ## Hosts that do not look at places -/

variable {σ : Type}

/-- The scripts ask alike, given alike answers, and what they change outside does not depend on what
may differ there, unless they draw from a stream that may. -/
inductive Script.Alike (veil : Veil σ) : Script σ → Script σ → Prop
  | done (answer : Answer) : Alike veil (.done answer) (.done answer)
  | fail (failure failure' : Failure) : Alike veil (.fail failure) (.fail failure')
  | content (c : Context) {next next' : Rendering → Script σ} :
    (∀ r, Alike veil (next r) (next' r)) → Alike veil (.content c next) (.content c next')
  | value (v : Value) (c : Context) {next next' : Rendering → Script σ} :
    (∀ r, Alike veil (next r) (next' r)) → Alike veil (.value v c next) (.value v c next')
  | template {t t' : Template} (c : Context) {next next' : String → Script σ} : t.Alike t' →
    (∀ s, Alike veil (next s) (next' s)) → Alike veil (.template t c next) (.template t' c next')
  | escape (s : String) {next next' : String → Script σ} :
    (∀ s, Alike veil (next s) (next' s)) → Alike veil (.escape s next) (.escape s next')
  | state {next next' : TagState → Script σ} :
    (∀ s, Alike veil (next s) (next' s)) → Alike veil (.state next) (.state next')
  | outside {change change' : Outside σ → Outside σ} {next next' : Outside σ → Script σ} :
    (∀ o id, veil.streams id → o.pulled id ≤ (change o).pulled id) →
    (∀ o, Alike veil (next o) (next o)) →
    (∀ o p, o.Beside veil p → o.Spares veil (change o) →
      (change o).Beside veil (change' p)) →
    (∀ o p, o.Beside veil p → o.Spares veil (change o) → Alike veil (next o) (next' p)) →
    Alike veil (.outside change next) (.outside change' next')

/-- The host does not look at the places and the numbers of tags, nor at what may differ outside
unless it draws from a stream that may; and it puts nothing back into such streams. -/
structure Host.Blind (veil : Veil σ) (host : Host σ) : Prop where
  grows : ∀ function captured arguments o id, veil.streams id →
    o.pulled id ≤ (host.call function captured arguments o).2.pulled id
  call : ∀ function captured arguments (o p : Outside σ), o.Beside veil p →
    o.Spares veil (host.call function captured arguments o).2 →
    (host.call function captured arguments o).1 = (host.call function captured arguments p).1 ∧
      (host.call function captured arguments o).2.Beside veil
        (host.call function captured arguments p).2
  script : ∀ name captured (t u : Tag) c, t.Alike u →
    (host.script name captured t c).Alike veil (host.script name captured u c)

open Run (Matches matches_pure matches_fail)

variable {d : Drift σ} {n : Nat}

theorem Host.run_eq_done {host : Host σ} {function : String} {captured arguments : List Value}
    {w w' : World σ} {v : Value} :
    host.run function captured arguments w = (.done v, w') ↔
      ∃ o, host.call function captured arguments w.outside = (.ok v, o) ∧
        { w with outside := o } = w' := by
  unfold run
  rcases host.call function captured arguments w.outside with ⟨e | u, o⟩
  · constructor
    · intro h
      cases h
    · rintro ⟨_, h, _⟩
      cases h
  · constructor
    · intro h
      cases h
      exact ⟨o, rfl, rfl⟩
    · rintro ⟨_, h, rfl⟩
      cases h
      rfl

theorem Host.Blind.run {host : Host σ} (h : host.Blind d.toVeil) (function : String)
    (captured arguments : List Value) :
    Matches d n (host.run function captured arguments) (host.run function captured arguments) := by
  constructor
  · intro w v w' hr _
    obtain ⟨o, hcall, rfl⟩ := Host.run_eq_done.1 hr
    refine ⟨Nat.le_refl _, fun id hd => ?_⟩
    have grows := h.grows function captured arguments w.outside id hd
    rw [hcall] at grows
    exact grows
  · intro w v u w' hr beside spares
    obtain ⟨o, hcall, rfl⟩ := Host.run_eq_done.1 hr
    have same := h.call function captured arguments _ _ beside.outside
    rw [hcall] at same
    obtain ⟨value, outside⟩ := same spares
    refine ⟨{ v with outside := (host.call function captured arguments v.outside).2 }, ?_,
      outside, beside.journal⟩
    exact Host.run_eq_done.2 ⟨(host.call function captured arguments v.outside).2,
      Prod.ext value.symm rfl, rfl⟩

/-- Where nothing may differ, the functions of the host may do anything. -/
theorem Host.blind_of_script {host : Host σ}
    (h : ∀ name captured (t u : Tag) c, t.Alike u →
      (host.script name captured t c).Alike .none (host.script name captured u c)) :
    host.Blind .none := by
  refine ⟨fun _ _ _ _ _ none => absurd none id, fun _ _ _ o p beside _ => ?_, h⟩
  rw [beside.eq_of_none]
  exact ⟨rfl, Outside.beside_none _⟩

structure Script.Handlers.Matches (d : Drift σ) (n : Nat) (h k : Handlers σ) : Prop where
  content : ∀ c, Run.Matches d n (h.content c) (k.content c)
  value : ∀ v c, Run.Matches d n (h.value v c) (k.value v c)
  template : ∀ t u c, t.Alike u → Run.Matches d n (h.template t c) (k.template u c)
  escape : h.escape = k.escape
  state : Run.Matches d n h.state k.state

theorem Script.Alike.run {script script' : Script σ} (h : script.Alike d.toVeil script')
    {handlers handlers' : Handlers σ} (hh : handlers.Matches d n handlers') :
    Run.Matches d n (script.run handlers) (script'.run handlers') := by
  induction h with
  | done answer => exact matches_pure answer
  | fail failure failure' => exact matches_fail _ _
  | content c _ ih => exact (hh.content c).bind ih
  | value v c _ ih => exact (hh.value v c).bind ih
  | template c alike _ ih => exact (hh.template _ _ c alike).bind ih
  | escape s _ ih =>
    simp only [Script.run, hh.escape]
    exact ih _
  | state _ ih => exact hh.state.bind ih
  | outside grows _ same _ further ih => exact Run.matches_outside_bind grows further same ih

/-! ## Evaluation -/

theorem Library.matches_each (v : Value) : Matches d n (each v : Run σ (List Value)) (each v) := by
  unfold each
  split
  · exact matches_pure _
  · exact matches_pure _
  · exact matches_pure _
  · cases v.items? with
    | some items => exact (Run.matches_eachItem matches_pure items).bind fun us => matches_pure _
    | none => exact matches_fail _ _

theorem ValueFunction.matches_call (f : ValueFunction) (arguments : List Value) :
    Matches d n (f.call arguments : Run σ Value) (f.call arguments) := by
  unfold call
  split
  · unfold apply
    split
    · cases f with
      | isEmpty => exact matches_pure _
      | isBlank => exact matches_pure _
      | each => exact (Library.matches_each _).bind fun items => matches_pure _
    · exact matches_fail _ _
  · exact matches_fail _ _
  · exact matches_fail _ _

section evaluation

variable {host : Host σ} (blind : host.Blind d.toVeil)

include blind

theorem Filter.matches_apply (f : Filter) (captured arguments : List Value) :
    Matches d n (f.apply host captured arguments) (f.apply host captured arguments) := by
  cases f with
  | generic body =>
    cases body with
    | library function => exact (function.matches_call arguments).wrap
    | host name => exact (blind.run name captured arguments).wrap
  | textual body => exact matches_pure _
  | variadic name => exact (blind.run name captured _).wrap
  | custom label name => exact blind.run name captured arguments

theorem Body.matches_callTexts (body : Body TextFunction) (captured : List Value)
    (texts : List Passage) :
    Matches d n (body.callTexts host captured texts) (body.callTexts host captured texts) := by
  cases body with
  | library function => exact (Run.matches_ofExcept _).wrap
  | host name => exact (blind.run name captured _).wrap

end evaluation

namespace Evaluator

variable {ev : Evaluator σ}

theorem matches_argument (a : Expr) (v : Value) :
    Matches d n (ev.argument a v) (ev.argument a v) := by
  unfold argument
  split
  · split
    · exact matches_pure _
    · exact matches_fail _ _
  · exact matches_pure _

theorem matches_callee (f : Expr) (v : Value) :
    Matches d n (callee f v : Run σ (Filter × List Value)) (callee f v) := by
  unfold callee
  split
  · exact matches_pure _
  · exact matches_fail _ _
  · exact matches_fail _ _

mutual

theorem matches_evaluate (blind : ev.host.Blind d.toVeil) (c : Context) (x : Expr) :
    Matches d n (ev.evaluate c x) (ev.evaluate c x) := by
  cases x with
  | name name => exact Run.matches_ofExcept _
  | top => exact matches_pure _
  | key base k =>
    simp only [evaluate]
    exact (matches_evaluate blind c base).bind fun v => Run.matches_ofExcept _
  | call f a rest =>
    simp only [evaluate]
    refine (matches_evaluate blind c f).bind fun v => (matches_callee f v).bind fun callee => ?_
    refine (matches_evaluate blind c a).bind fun u => (matches_argument a u).bind fun first => ?_
    refine (matches_evaluateArguments blind c rest).bind fun others => ?_
    exact (Filter.matches_apply blind _ _ _).wrap

theorem matches_evaluateArguments (blind : ev.host.Blind d.toVeil) (c : Context)
    (l : List Expr) : Matches d n (ev.evaluateArguments c l) (ev.evaluateArguments c l) := by
  cases l with
  | nil => exact matches_pure []
  | cons a rest =>
    simp only [evaluateArguments]
    refine (matches_evaluate blind c a).bind fun u => (matches_argument a u).bind fun first => ?_
    exact (matches_evaluateArguments blind c rest).bind fun others => matches_pure _

end

end Evaluator

/-! ## Rendering -/

theorem Journal.stateOf_move (j : Journal) (tag : Nat) (state : TagState) (other : Nat) :
    (j.move tag state).stateOf other = if other = tag then state else j.stateOf other := by
  unfold stateOf move
  rw [List.lookup_cons]
  by_cases h : other = tag
  · simp [h]
  · rw [beq_false_of_ne h, if_neg h]

theorem Journal.stateOf_create (j : Journal) (other : Nat) :
    j.create.stateOf other = if other = j.created then .unresolved else j.stateOf other :=
  j.stateOf_move j.created .unresolved other

namespace Journal.Beside

variable {j k : Journal}

/-- Both runs create a tag. -/
theorem create (h : j.Beside d n k) :
    ∃ i, n ≤ i ∧ j.created = d.first + i ∧ k.created = d.second + i ∧
      j.create.Beside d (i + 1) k.create := by
  obtain ⟨i, hi, first, second, states⟩ := h
  refine ⟨i, hi, first, second, i + 1, Nat.le_refl _, ?_, ?_, fun x hx => ?_⟩
  · simp only [Journal.create, first, Nat.add_assoc]
  · simp only [Journal.create, second, Nat.add_assoc]
  · rw [Journal.stateOf_create, Journal.stateOf_create, first, second]
    by_cases hxi : x = i
    · rw [hxi, if_pos rfl, if_pos rfl]
    · rw [if_neg (by omega), if_neg (by omega), states x (by omega)]

/-- A tag comes equally far in both runs. -/
theorem move (h : j.Beside d n k) (x : Nat) (state : TagState) :
    (j.move (d.first + x) state).Beside d n (k.move (d.second + x) state) := by
  obtain ⟨i, hi, first, second, states⟩ := h
  refine ⟨i, hi, first, second, fun y hy => ?_⟩
  rw [Journal.stateOf_move, Journal.stateOf_move, states y hy]
  by_cases hxy : y = x
  · rw [hxy, if_pos rfl, if_pos rfl]
  · rw [if_neg (by omega), if_neg (by omega)]

theorem stateOf (h : j.Beside d n k) {x : Nat} (hx : x < n) :
    j.stateOf (d.first + x) = k.stateOf (d.second + x) := by
  obtain ⟨i, hi, _, _, states⟩ := h
  exact states x (Nat.lt_of_lt_of_le hx hi)

end Journal.Beside

/-- Two tags created by runs beside each other, among the first `n` of each. -/
structure Tag.Beside (d : Drift σ) (n : Nat) (t u : Tag) : Prop where
  alike : t.Alike u
  created : ∃ x < n, t.id = d.first + x ∧ u.id = d.second + x

namespace Engine

variable {e : Engine σ} {t u : Tag}

theorem matches_move (h : t.Beside d n u) (state : TagState) :
    Matches d n (move t state : Run σ Unit) (move u state) := by
  obtain ⟨x, hx, ht, hu⟩ := h.created
  constructor
  · intro w _ w' hr _
    cases hr
    exact ⟨Nat.le_refl _, fun _ _ => Nat.le_refl _⟩
  · intro w v _ w' hr beside _
    cases hr
    refine ⟨{ v with journal := v.journal.move u.id state }, rfl, beside.outside, ?_⟩
    rw [ht, hu]
    exact beside.journal.move x state

theorem matches_state (h : t.Beside d n u) :
    Matches d n (do return (← Run.journal id).stateOf t.id : Run σ TagState)
      (do return (← Run.journal id).stateOf u.id) := by
  obtain ⟨x, hx, ht, hu⟩ := h.created
  constructor
  · intro w _ w' hr _
    cases hr
    exact .refl d w
  · intro w v _ w' hr beside _
    cases hr
    refine ⟨v, ?_, beside⟩
    rw [ht, beside.journal.stateOf hx, ← hu]
    rfl

theorem matches_resolve (blind : e.host.Blind d.toVeil) (h : t.Alike u) (c : Context) :
    Matches d n (e.resolve t c) (e.resolve u c) := by
  unfold resolve
  rw [h.expression]
  have evaluated (x : Expr) : Matches d n (Evaluator.evaluate ⟨e.host, e.policy⟩ c x)
      (Evaluator.evaluate ⟨e.host, e.policy⟩ c x) :=
    Evaluator.matches_evaluate blind c x
  refine (evaluated _).bind fun v => ?_
  split
  · exact matches_fail _ _
  · exact matches_pure _

theorem matches_visit {α : Type} (blind : e.host.Blind d.toVeil) {head head' : Head}
    {form form' : Form} (hh : head.expression = head'.expression) (hf : form.Alike form')
    (c : Context) {f g : Tag → Value → Run σ α}
    (h : ∀ m t u v, t.Beside d m u → Matches d m (f t v) (g u v)) :
    Matches d n (e.visit head form c f) (e.visit head' form' c g) := by
  have inside {m : Nat} {t u : Tag} (ht : t.Beside d m u) :
      Matches d m
        (do
          move t .resolving
          let v ← e.resolve t c
          move t .resolved
          move t .rendering
          let answer ← f t v
          move t .rendered
          return answer)
        (do
          move u .resolving
          let v ← e.resolve u c
          move u .resolved
          move u .rendering
          let answer ← g u v
          move u .rendered
          return answer) := by
    refine (matches_move ht _).bind fun _ => (matches_resolve blind ht.alike c).bind fun v => ?_
    refine (matches_move ht _).bind fun _ => (matches_move ht _).bind fun _ => ?_
    exact (h m t u v ht).bind fun answer => (matches_move ht _).bind fun _ => matches_pure answer
  constructor
  · intro w a w' hr floor
    obtain ⟨tag, w₁, hc, hr⟩ := Run.bind_eq_done.1 hr
    cases hc
    -- Any tag of the same number would do for the second run.
    obtain ⟨i, hi⟩ := Nat.exists_eq_add_of_le floor
    have tags : Tag.Beside d (n + i + 1) ⟨w.journal.created, head, form⟩
        ⟨d.second + (n + i), head', form'⟩ :=
      ⟨⟨hh, hf⟩, n + i, Nat.lt_succ_self _, by simp only; omega, rfl⟩
    have created : d.first + (n + i + 1) ≤ w.journal.create.created := by
      simp only [Journal.create]
      omega
    have grows := (inside tags).grows (Run.onFailure_eq_done.1 hr) created
    exact ⟨Nat.le_of_succ_le grows.created, grows.pulled⟩
  · intro w v a w' hr beside spares
    obtain ⟨tag, w₁, hc, hr⟩ := Run.bind_eq_done.1 hr
    cases hc
    obtain ⟨i, hi, first, second, journal⟩ := beside.journal.create
    have tags : Tag.Beside d (i + 1) ⟨w.journal.created, head, form⟩
        ⟨v.journal.created, head', form'⟩ :=
      ⟨⟨hh, hf⟩, i, Nat.lt_succ_self _, first, second⟩
    have beside₁ : World.Beside d (i + 1) { w with journal := w.journal.create }
        { v with journal := v.journal.create } := ⟨beside.outside, journal⟩
    obtain ⟨v', hs, beside'⟩ := (inside tags).ends (Run.onFailure_eq_done.1 hr) beside₁ spares
    refine ⟨v', Run.bind_eq_done.2 ⟨_, _, rfl, Run.onFailure_eq_done.2 hs⟩, beside'.outside, ?_⟩
    exact beside'.journal.weaken (Nat.le_trans hi (Nat.le_succ i))

theorem insert_alike (h : t.Alike u) (r : Rendering) : e.insert t r = e.insert u r := by
  unfold insert
  rw [h.escaped]

theorem escapeFor_alike (h : t.Alike u) : e.escapeFor t = e.escapeFor u := by
  unfold escapeFor
  rw [h.escaped]

theorem matches_finish {f g : Value → Run σ Rendering} (h : ∀ v, Matches d n (f v) (g v))
    (answer : Answer) : Matches d n (finish f answer) (finish g answer) := by
  cases answer with
  | rendering r => exact matches_pure r
  | value v => exact h v

theorem matches_finishPair {f g : Value → Run σ Rendering} (h : ∀ v, Matches d n (f v) (g v))
    (answer : Answer) : Matches d n (finishPair f answer) (finishPair g answer) := by
  cases answer with
  | rendering r => exact matches_pure r
  | value v =>
    simp only [finishPair]
    cases pair? v with
    | some r => exact matches_pure r
    | none => exact h v

theorem matches_answered (label : String) (answer : Answer) :
    Matches d n (answered label answer : Run σ Rendering) (answered label answer) := by
  unfold answered
  split
  · exact matches_pure _
  · split
    · exact matches_pure _
    · exact matches_pure _
    · exact matches_pure _
    · exact matches_fail _ _

theorem matches_leaf (v : Value) : Matches d n (leaf v : Run σ Rendering) (leaf v) := by
  unfold leaf
  split
  · exact matches_pure _
  · exact matches_pure _
  · exact matches_pure _
  · exact matches_pure _
  · split
    · exact matches_pure _
    · exact (Run.matches_ofExcept _).bind fun s => matches_pure _

/-- At one depth, the functions of the engine do alike for templates that differ in places only and
for tags that were created beside each other. -/
structure RendersBeside (e : Engine σ) (d : Drift σ) (depth : Nat) : Prop where
  nodes : ∀ n t u c, Template.Alike t u →
    Matches d n (e.renderNodes depth t c) (e.renderNodes depth u c)
  variableTag : ∀ n t u v c, t.Beside d n u →
    Matches d n (e.renderVariable depth t v c) (e.renderVariable depth u v c)
  sectionTag : ∀ n t u v c, t.Beside d n u →
    Matches d n (e.renderSection depth t v c) (e.renderSection depth u v c)
  item : ∀ n t u v c, t.Beside d n u →
    Matches d n (e.renderItem depth t v c) (e.renderItem depth u v c)
  value : ∀ n t u v c, t.Beside d n u →
    Matches d n (e.renderValue depth t v c) (e.renderValue depth u v c)

variable {depth : Nat}

theorem RendersBeside.contentOf (ih : e.RendersBeside d depth) (h : t.Beside d n u)
    (c : Context) :
    Matches d n (Engine.contentOf t (e.renderNodes depth) c)
      (Engine.contentOf u (e.renderNodes depth) c) := by
  unfold Engine.contentOf
  rw [h.alike.isSection]
  split
  · exact (ih.nodes _ _ _ c h.alike.children).bind fun s => matches_pure _
  · exact matches_pure _

theorem RendersBeside.valueFor (ih : e.RendersBeside d depth) (h : t.Beside d n u) (v : Value)
    (c : Context) :
    Matches d n
      (Engine.valueFor t (e.renderSection depth t) (e.renderValue depth t) v c)
      (Engine.valueFor u (e.renderSection depth u) (e.renderValue depth u) v c) := by
  unfold Engine.valueFor
  rw [h.alike.isSection]
  split
  · exact (ih.sectionTag _ _ _ v c h).bind fun p => matches_pure _
  · exact ih.value _ _ _ v c h

theorem RendersBeside.handlers (ih : e.RendersBeside d depth) (h : t.Beside d n u) :
    Script.Handlers.Matches d n
      (e.handlers t (e.renderNodes depth) (e.renderSection depth t) (e.renderValue depth t))
      (e.handlers u (e.renderNodes depth) (e.renderSection depth u) (e.renderValue depth u)) where
  content := ih.contentOf h
  value := ih.valueFor h
  template t u c alike := ih.nodes n t u c alike
  escape := escapeFor_alike h.alike
  state := matches_state h

/-- Renderables ask alike, and no other value asks for more than its items. -/
theorem RendersBeside.succ_value (blind : e.host.Blind d.toVeil) (ih : e.RendersBeside d depth)
    (h : t.Beside d n u) (v : Value) (c : Context) :
    Matches d n (e.renderValue (depth + 1) t v c) (e.renderValue (depth + 1) u v c) := by
  rcases hi : v.joinedItems? with _ | items
  · by_cases hr : v.isRenderable = true
    · cases v with
      | eager text safe =>
        simp only [renderValue]
        exact matches_pure _
      | deferred name captured =>
        simp only [renderValue]
        refine (((blind.script name captured t u c h.alike).run (ih.handlers h)).bind ?_).wrap
        exact fun answer => matches_finishPair (fun w => ih.value n t u w c h) answer
      | pending body captured arguments =>
        simp only [renderValue]
        have texts : Matches d n
            (Run.each (fun a => (e.handlers t (e.renderNodes depth) (e.renderSection depth t)
              (e.renderValue depth t)).value a c) arguments)
            (Run.each (fun a => (e.handlers u (e.renderNodes depth) (e.renderSection depth u)
              (e.renderValue depth u)).value a c) arguments) :=
          Run.matches_each (List.forall₂_same.2 fun a _ => (ih.handlers h).value a c)
        refine (texts.bind fun rs => (Body.matches_callTexts blind body captured _).bind ?_).wrap
        exact fun value => matches_finish (fun w => ih.value n t u w c h) (transformed rs value)
      | custom label name captured =>
        simp only [renderValue]
        refine ((blind.script name captured t u c h.alike).run (ih.handlers h)).wrap.bind ?_
        exact matches_answered label
      | eachItem item index last key =>
        simp only [renderValue]
        rw [h.alike.isSection]
        refine Matches.wrap ?_
        split
        · exact (ih.handlers h).content _
        · exact ih.value n t u item c h
      | _ => simp [Value.isRenderable] at hr
    · rw [renderValue_leaf _ hi (by simpa using hr), renderValue_leaf _ hi (by simpa using hr)]
      exact matches_leaf v
  · rw [renderValue_of_items _ hi, renderValue_of_items _ hi]
    exact (Run.matches_eachItem (fun w => ih.value n t u w c h) items).bind fun rs => matches_pure _

theorem rendersBeside (blind : e.host.Blind d.toVeil) (depth : Nat) :
    e.RendersBeside d depth := by
  induction depth with
  | zero => constructor <;> intros <;> exact Run.matches_exhaust _
  | succ depth ih =>
    refine ⟨?_, ?_, ?_, ?_, fun n t u v c h => ih.succ_value blind h v c⟩
    · intro n t u c alike
      simp only [renderNodes]
      refine Matches.bind (Run.matches_each (alike.nodes.imp fun a b hab => ?_)) fun texts =>
        matches_pure _
      cases hab with
      | text => exact matches_pure _
      | variableTag expression =>
        exact matches_visit blind expression .variableTag c fun m t u v h =>
          ih.variableTag m t u v c h
      | sectionTag expression children =>
        refine matches_visit blind expression (.sectionTag children) c fun m t u v h => ?_
        exact (ih.sectionTag m t u v c h).bind fun p => matches_pure _
    · intro n t u v c h
      simp only [renderVariable]
      cases v.items? with
      | some items =>
        exact (Run.matches_eachItem (fun w => ih.variableTag n t u w c h) items).bind fun ts =>
          matches_pure _
      | none =>
        simp only [insert_alike h.alike]
        exact (ih.value n t u v c h).bind fun r => matches_pure _
    · intro n t u v c h
      simp only [renderSection]
      rw [h.alike.isInverted]
      split
      · refine (Run.matches_ofExcept _).bind fun truth => ?_
        split
        · exact matches_pure _
        · exact (ih.nodes n _ _ c h.alike.children).bind fun s => matches_pure _
      · cases v.items? with
        | some items =>
          exact (Run.matches_eachItem (fun w => ih.item n t u w c h) items).bind fun ts =>
            matches_pure _
        | none =>
          refine (Run.matches_ofExcept _).bind fun shown => ?_
          split
          · exact ih.item n t u v c h
          · exact matches_pure _
    · intro n t u v c h
      simp only [renderItem]
      split
      · simp only [insert_alike h.alike]
        exact (ih.value n t u v c h).bind fun r => matches_pure _
      · exact (ih.nodes n _ _ _ h.alike.children).bind fun s => matches_pure _

/-- A template that renders gives the same text at any other places, and in any world in which the
streams from which it draws are as they were. -/
theorem renders_beside {veil : Veil σ} (blind : e.host.Blind veil) {t u : Template}
    (alike : t.Alike u) {c : Context} {w v w' : World σ} {s : String}
    (rendered : e.renderNodes depth t c w = (.done s, w'))
    (beside : w.outside.Beside veil v.outside) (spares : w.outside.Spares veil w'.outside) :
    ∃ v', e.renderNodes depth u c v = (.done s, v') ∧ w'.outside.Beside veil v'.outside := by
  let d : Drift σ := ⟨veil, w.journal.created, v.journal.created⟩
  have journal : w.journal.Beside d 0 v.journal :=
    ⟨0, Nat.le_refl _, rfl, rfl, fun x hx => absurd hx (Nat.not_lt_zero x)⟩
  have runs := (rendersBeside (d := d) blind depth).nodes 0 t u c alike
  obtain ⟨v', hs, beside'⟩ := runs.ends rendered ⟨beside, journal⟩ spares
  exact ⟨v', hs, beside'.outside⟩

/-- A template that renders puts nothing back into streams into which the host does not. -/
theorem pulled_le_of_renders {veil : Veil σ} (blind : e.host.Blind veil) {t : Template}
    {c : Context} {w w' : World σ} {s : String}
    (rendered : e.renderNodes depth t c w = (.done s, w')) {id : Nat} (hid : veil.streams id) :
    w.outside.pulled id ≤ w'.outside.pulled id := by
  let d : Drift σ := ⟨veil, w.journal.created, w.journal.created⟩
  have runs := (rendersBeside (d := d) blind depth).nodes 0 t t c rfl
  exact (runs.grows rendered (Nat.le_refl _)).pulled id hid

end Engine

end Stencil
