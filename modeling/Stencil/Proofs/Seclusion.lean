-- Renderings that share nothing. What the engine does with a context of a realm keeps to the realm,
-- so the rendering comes to the same whether or not one of another realm has been there before.
import Stencil.Proofs.Beside
import Stencil.Proofs.Elsewhere
import Stencil.Proofs.Realms

namespace Stencil

variable {σ : Type} {R : Realm σ} {d : Drift σ} {n : Nat} {host : Host σ}

open Run (Gives)

/-! ## Evaluation -/

theorem Realm.Governs.keeps (governs : R.Governs host) : host.Keeps R.owns := by
  intro f name captured arguments o v o' hf hn ha called
  exact governs.result hf (by rw [Value.block?, hn]; rfl) ha called

theorem Library.secluded_each (governs : R.Governs host) {v : Value} (hv : v.Throughout R.owns) :
    Run.Secluded R d n (each v : Run σ (List Value)) (each v) := by
  unfold each
  split
  · exact Run.secluded_pure governs _
  · exact Run.secluded_pure governs _
  · exact Run.secluded_pure governs _
  · cases hi : v.items? with
    | some items =>
      have items := Run.secluded_eachItem (d := d) (n := n) governs hv hi fun u _ =>
        Run.secluded_pure governs u
      exact items.bind_any governs fun us => Run.secluded_pure governs _
    | none => exact Run.secluded_fail governs _

theorem ValueFunction.secluded_call (governs : R.Governs host) (f : ValueFunction)
    {arguments : List Value} (ha : ∀ a ∈ arguments, a.Throughout R.owns) :
    Run.Secluded R d n (f.call arguments : Run σ Value) (f.call arguments) := by
  unfold call
  split
  · unfold apply
    split
    · cases f with
      | isEmpty => exact Run.secluded_pure governs _
      | isBlank => exact Run.secluded_pure governs _
      | each =>
        have each := Library.secluded_each (d := d) (n := n) governs (ha _ List.mem_cons_self)
        exact each.bind_any governs fun us => Run.secluded_pure governs _
    · exact Run.secluded_fail governs _
  · exact Run.secluded_fail governs _
  · exact Run.secluded_fail governs _

theorem Filter.secluded_apply (governs : R.Governs host) {f : Filter}
    {captured arguments : List Value} (hf : (Value.filter f captured).Throughout R.owns)
    (ha : ∀ a ∈ arguments, a.Throughout R.owns) :
    Run.Secluded R d n (f.apply host captured arguments) (f.apply host captured arguments) := by
  cases f with
  | generic body =>
    cases body with
    | library function => exact (function.secluded_call governs ha).wrap governs
    | host name => exact (Run.secluded_call (governs.call hf rfl ha)).wrap governs
  | textual body => exact Run.secluded_pure governs _
  | variadic name =>
    have packed : ∀ a ∈ [Value.list arguments], a.Throughout R.owns := by
      intro a h
      obtain rfl := List.mem_singleton.1 h
      exact .list governs.ordinary ha
    exact (Run.secluded_call (governs.call hf rfl packed)).wrap governs
  | custom label name => exact Run.secluded_call (governs.call hf rfl ha)

theorem Realm.Governs.texts (governs : R.Governs host) (texts : List Passage) :
    ∀ a ∈ texts.map Value.ofPassage, a.Throughout R.owns := by
  intro a ha
  obtain ⟨text, _, rfl⟩ := List.mem_map.1 ha
  exact Value.throughout_ofPassage governs.ordinary governs.markup text

theorem Body.secluded_callTexts (governs : R.Governs host) {body : Body TextFunction}
    {captured arguments : List Value}
    (hv : (Value.pending body captured arguments).Throughout R.owns) (texts : List Passage) :
    Run.Secluded R d n (body.callTexts host captured texts)
      (body.callTexts host captured texts) := by
  cases body with
  | library function => exact (Run.secluded_ofExcept governs _).wrap governs
  | host name =>
    exact (Run.secluded_call (governs.call hv rfl (governs.texts texts))).wrap governs

theorem Body.throughout_callTexts (governs : R.Governs host) {body : Body TextFunction}
    {captured arguments : List Value}
    (hv : (Value.pending body captured arguments).Throughout R.owns) (texts : List Passage) :
    Gives (·.Throughout R.owns) (body.callTexts host captured texts) := by
  cases body with
  | library function =>
    exact Run.gives_wrap (Run.ends_ofExcept
      (fun v called => TextFunction.throughout_call governs.ordinary governs.markup called)
      fun _ _ => trivial)
  | host name =>
    refine Run.gives_wrap fun w => ?_
    unfold Host.run
    rcases called : host.call name captured (texts.map .ofPassage) w.outside with ⟨_ | u, o⟩
    · trivial
    · exact governs.result hv rfl (governs.texts texts) called

namespace Evaluator

variable {ev : Evaluator σ} {c : Context}

theorem secluded_argument (governs : R.Governs host) (a : Expr) (v : Value) :
    Run.Secluded R d n (ev.argument a v) (ev.argument a v) := by
  unfold argument
  split
  · split
    · exact Run.secluded_pure governs _
    · exact Run.secluded_fail governs _
  · exact Run.secluded_pure governs _

theorem secluded_callee (governs : R.Governs host) (f : Expr) (v : Value) :
    Run.Secluded R d n (callee f v : Run σ (Filter × List Value)) (callee f v) := by
  unfold callee
  split
  · exact Run.secluded_pure governs _
  · exact Run.secluded_fail governs _
  · exact Run.secluded_fail governs _

mutual

theorem secluded_evaluate (governs : R.Governs ev.host) (hc : c.Throughout R.owns) (x : Expr) :
    Run.Secluded R d n (ev.evaluate c x) (ev.evaluate c x) := by
  have gives (x : Expr) : Gives (·.Throughout R.owns) (ev.evaluate c x) :=
    gives_evaluate governs.ordinary governs.pending governs.keeps hc x
  cases x with
  | name name => simpa only [evaluate] using Run.secluded_ofExcept governs _
  | top => simpa only [evaluate] using Run.secluded_pure governs _
  | key base k =>
    simp only [evaluate]
    exact (secluded_evaluate governs hc base).bind_any governs fun v =>
      Run.secluded_ofExcept governs _
  | call f a rest =>
    simp only [evaluate]
    refine (secluded_evaluate governs hc f).bind governs (gives f) fun v hv => ?_
    refine (secluded_callee governs f v).bind governs (gives_callee f hv) fun callee hf => ?_
    refine (secluded_evaluate governs hc a).bind governs (gives a) fun u hu => ?_
    refine (secluded_argument governs a u).bind governs (gives_argument governs.ordinary a hu)
      fun first hfirst => ?_
    refine (secluded_evaluateArguments governs hc rest).bind governs
      (gives_evaluateArguments governs.ordinary governs.pending governs.keeps hc rest)
      fun others hothers => ?_
    refine (Filter.secluded_apply governs hf fun b hb => ?_).wrap governs
    rcases List.mem_cons.1 hb with rfl | hb
    · exact hfirst
    · exact hothers b hb

theorem secluded_evaluateArguments (governs : R.Governs ev.host) (hc : c.Throughout R.owns)
    (l : List Expr) :
    Run.Secluded R d n (ev.evaluateArguments c l) (ev.evaluateArguments c l) := by
  cases l with
  | nil => simpa only [evaluateArguments] using Run.secluded_pure governs _
  | cons a rest =>
    simp only [evaluateArguments]
    refine (secluded_evaluate governs hc a).bind_any governs fun u => ?_
    refine (secluded_argument governs a u).bind_any governs fun first => ?_
    exact (secluded_evaluateArguments governs hc rest).bind_any governs fun others =>
      Run.secluded_pure governs _

end

end Evaluator

/-! ## Tags -/

/-- The same tag in two runs, among the first `n` tags of each. -/
structure Tag.Twin (d : Drift σ) (n : Nat) (t u : Tag) : Prop where
  head : t.head = u.head
  form : t.form = u.form
  created : ∃ x < n, t.id = d.first + x ∧ u.id = d.second + x

namespace Tag.Twin

variable {t u : Tag}

theorem isSection (h : t.Twin d n u) : t.isSection = u.isSection := by
  rw [Tag.isSection, h.form, Tag.isSection]

theorem isInverted (h : t.Twin d n u) : t.isInverted = u.isInverted := by
  rw [Tag.isInverted, h.form, Tag.isInverted]

theorem escaped (h : t.Twin d n u) : t.escaped = u.escaped := by
  rw [Tag.escaped, h.form, Tag.escaped]

theorem children (h : t.Twin d n u) : t.children = u.children := by
  rw [Tag.children, h.form, Tag.children]

end Tag.Twin

namespace Engine

variable {e : Engine σ} {t u : Tag} {c : Context}

theorem secluded_move (governs : R.Governs host) (h : t.Twin d n u) (state : TagState) :
    Run.Secluded R d n (move t state : Run σ Unit) (move u state) := by
  obtain ⟨x, hx, ht, hu⟩ := h.created
  constructor
  · intro w _
    exact Nat.le_refl _
  · intro w _
    exact governs.leaves_refl _
  · intro w v near
    have journal := near.journal.move x state
    rw [← ht, ← hu] at journal
    exact ⟨rfl, near.outside, journal⟩

theorem secluded_state (governs : R.Governs host) (h : t.Twin d n u) :
    Run.Secluded R d n (do return (← Run.journal id).stateOf t.id : Run σ TagState)
      (do return (← Run.journal id).stateOf u.id) := by
  obtain ⟨x, hx, ht, hu⟩ := h.created
  constructor
  · intro w _
    exact Nat.le_refl _
  · intro w _
    exact governs.leaves_refl _
  · intro w v near
    have states := near.journal.stateOf hx
    rw [← ht, ← hu] at states
    exact ⟨congrArg Outcome.done states, near⟩

theorem secluded_resolve (governs : R.Governs e.host) (h : t.Twin d n u)
    (hc : c.Throughout R.owns) : Run.Secluded R d n (e.resolve t c) (e.resolve u c) := by
  unfold resolve
  rw [h.head]
  refine (Evaluator.secluded_evaluate governs hc _).bind_any governs fun v => ?_
  split
  · exact Run.secluded_fail governs _
  · exact Run.secluded_pure governs _

theorem secluded_visit {α : Type} (governs : R.Governs e.host) {head : Head} {form : Form}
    (hc : c.Throughout R.owns) {f g : Tag → Value → Run σ α}
    (h : ∀ m t u v, t.form = form → t.Twin d m u → v.Throughout R.owns →
      Run.Secluded R d m (f t v) (g u v)) :
    Run.Secluded R d n (e.visit head form c f) (e.visit head form c g) := by
  have resolves (t : Tag) : Gives (·.Throughout R.owns) (e.resolve t c) :=
    gives_resolve t (Evaluator.gives_evaluate governs.ordinary governs.pending governs.keeps hc _)
  have inside {m : Nat} {t u : Tag} (hf : t.form = form) (ht : t.Twin d m u) :
      Run.Secluded R d m (e.attend t c f) (e.attend u c g) := by
    refine Run.Secluded.onFailure governs ?_ fun failure => ?_
    · refine (secluded_move governs ht _).bind_any governs fun _ => ?_
      refine (secluded_resolve governs ht hc).bind governs (resolves t) fun v hv => ?_
      refine (secluded_move governs ht _).bind_any governs fun _ => ?_
      refine (secluded_move governs ht _).bind_any governs fun _ => ?_
      refine (h m t u v hf ht hv).bind_any governs fun answer => ?_
      exact (secluded_move governs ht _).bind_any governs fun _ => Run.secluded_pure governs _
    · cases failure with
      | fault f =>
        simp only [leave, ht.head]
        exact (secluded_move governs ht _).bind_any governs fun _ => Run.secluded_pure governs _
      | host error => exact Run.secluded_pure governs _
  -- Any tag of the same number would do for the second run.
  have alone {w : World σ} (floor : d.first + n ≤ w.journal.created) :
      ∃ i, d.first + (n + i + 1) = w.journal.create.created ∧
        Tag.Twin d (n + i + 1) ⟨w.journal.created, head, form⟩
          ⟨d.second + (n + i), head, form⟩ := by
    obtain ⟨i, hi⟩ := Nat.exists_eq_add_of_le floor
    refine ⟨i, ?_, rfl, rfl, n + i, Nat.lt_succ_self _, ?_, rfl⟩
    · simp only [Journal.create]
      omega
    · simp only
      omega
  constructor
  · intro w floor
    obtain ⟨i, created, twins⟩ := alone floor
    have grows := (inside rfl twins).created (w := { w with journal := w.journal.create })
      (Nat.le_of_eq created)
    exact Nat.le_trans (Nat.le_succ _) grows
  · intro w floor
    obtain ⟨i, created, twins⟩ := alone floor
    exact (inside rfl twins).leaves (w := { w with journal := w.journal.create })
      (Nat.le_of_eq created)
  · intro w v near
    obtain ⟨i, hi, first, second, journal⟩ := near.journal.create
    have twins : Tag.Twin d (i + 1) ⟨w.journal.created, head, form⟩
        ⟨v.journal.created, head, form⟩ := ⟨rfl, rfl, i, Nat.lt_succ_self _, first, second⟩
    obtain ⟨same, near'⟩ := (inside rfl twins).ends (w := { w with journal := w.journal.create })
      (v := { v with journal := v.journal.create }) ⟨near.outside, journal⟩
    exact ⟨same, near'.outside, near'.journal.weaken (Nat.le_trans hi (Nat.le_succ i))⟩

theorem insert_twin (h : t.Twin d n u) (r : Rendering) : e.insert t r = e.insert u r := by
  unfold insert
  rw [h.escaped]

theorem secluded_finish (governs : R.Governs host) {f g : Value → Run σ Rendering}
    {answer : Answer} (owned : ∀ v, answer = .value v → v.Throughout R.owns)
    (h : ∀ v, v.Throughout R.owns → Run.Secluded R d n (f v) (g v)) :
    Run.Secluded R d n (finish f answer) (finish g answer) := by
  cases answer with
  | rendering r => exact Run.secluded_pure governs r
  | value v => exact h v (owned v rfl)

theorem secluded_finishPair (governs : R.Governs host) {f g : Value → Run σ Rendering}
    {answer : Answer} (owned : ∀ v, answer = .value v → v.Throughout R.owns)
    (h : ∀ v, v.Throughout R.owns → Run.Secluded R d n (f v) (g v)) :
    Run.Secluded R d n (finishPair f answer) (finishPair g answer) := by
  cases answer with
  | rendering r => exact Run.secluded_pure governs r
  | value v =>
    simp only [finishPair]
    cases pair? v with
    | some r => exact Run.secluded_pure governs r
    | none => exact h v (owned v rfl)

theorem secluded_answered (governs : R.Governs host) (label : String) (answer : Answer) :
    Run.Secluded R d n (answered label answer : Run σ Rendering) (answered label answer) := by
  unfold answered
  split
  · exact Run.secluded_pure governs _
  · split
    · exact Run.secluded_pure governs _
    · exact Run.secluded_pure governs _
    · exact Run.secluded_pure governs _
    · exact Run.secluded_fail governs _

theorem secluded_leaf (governs : R.Governs host) (v : Value) :
    Run.Secluded R d n (leaf v : Run σ Rendering) (leaf v) := by
  unfold leaf
  split
  · exact Run.secluded_pure governs _
  · exact Run.secluded_pure governs _
  · exact Run.secluded_pure governs _
  · exact Run.secluded_pure governs _
  · split
    · exact Run.secluded_pure governs _
    · refine (Run.secluded_ofExcept governs _).bind_any governs fun s => ?_
      exact Run.secluded_pure governs _

/-- At one depth, the functions of the engine keep to the realm of their context and their value. -/
structure Secludes (e : Engine σ) (R : Realm σ) (d : Drift σ) (depth : Nat) : Prop where
  nodes : ∀ n t {c : Context}, c.Throughout R.owns →
    Run.Secluded R d n (e.renderNodes depth t c) (e.renderNodes depth t c)
  variableTag : ∀ {n t u} {v : Value} {c : Context}, Tag.Twin d n t u → v.Throughout R.owns →
    c.Throughout R.owns →
    Run.Secluded R d n (e.renderVariable depth t v c) (e.renderVariable depth u v c)
  sectionTag : ∀ {n t u} {v : Value} {c : Context}, Tag.Twin d n t u → v.Throughout R.owns →
    c.Throughout R.owns →
    Run.Secluded R d n (e.renderSection depth t v c) (e.renderSection depth u v c)
  item : ∀ {n t u} {v : Value} {c : Context}, Tag.Twin d n t u → v.Throughout R.owns →
    c.Throughout R.owns →
    Run.Secluded R d n (e.renderItem depth t v c) (e.renderItem depth u v c)
  value : ∀ {n t u} {v : Value} {c : Context}, Tag.Twin d n t u → v.Throughout R.owns →
    c.Throughout R.owns →
    Run.Secluded R d n (e.renderValue depth t v c) (e.renderValue depth u v c)

variable {depth : Nat}

theorem Secludes.contentOf (governs : R.Governs e.host) (ih : e.Secludes R d depth)
    (h : t.Twin d n u) (hc : c.Throughout R.owns) :
    Run.Secluded R d n (Engine.contentOf t (e.renderNodes depth) c)
      (Engine.contentOf u (e.renderNodes depth) c) := by
  unfold Engine.contentOf
  rw [h.isSection, h.children]
  split
  · exact (ih.nodes n _ hc).bind_any governs fun s => Run.secluded_pure governs _
  · exact Run.secluded_pure governs _

theorem Secludes.valueFor (governs : R.Governs e.host) (ih : e.Secludes R d depth)
    (h : t.Twin d n u) {v : Value} (hv : v.Throughout R.owns) (hc : c.Throughout R.owns) :
    Run.Secluded R d n
      (Engine.valueFor t (e.renderSection depth t) (e.renderValue depth t) v c)
      (Engine.valueFor u (e.renderSection depth u) (e.renderValue depth u) v c) := by
  unfold Engine.valueFor
  rw [h.isSection]
  split
  · exact (ih.sectionTag h hv hc).bind_any governs fun p => Run.secluded_pure governs _
  · exact ih.value h hv hc

theorem Secludes.handlers (governs : R.Governs e.host) (ih : e.Secludes R d depth)
    (h : t.Twin d n u) :
    (e.handlers t (e.renderNodes depth) (e.renderSection depth t) (e.renderValue depth t)).Secluded
      R d n (e.handlers u (e.renderNodes depth) (e.renderSection depth u) (e.renderValue depth u))
      where
  content := ih.contentOf governs h
  value := ih.valueFor governs h
  template t _ hc := ih.nodes n t hc
  escape := by
    funext text
    simp only [Engine.handlers, escapeFor, h.escaped]
  state := secluded_state governs h

/-- Renderables keep to the realm because their scripts and functions do. -/
theorem Secludes.succ_value (governs : R.Governs e.host) (ih : e.Secludes R d depth)
    (h : t.Twin d n u) {v : Value} (hv : v.Throughout R.owns) (hc : c.Throughout R.owns) :
    Run.Secluded R d n (e.renderValue (depth + 1) t v c) (e.renderValue (depth + 1) u v c) := by
  have value (w : Value) (hw : w.Throughout R.owns) :
      Run.Secluded R d n (e.renderValue depth t w c) (e.renderValue depth u w c) :=
    ih.value h hw hc
  rcases hi : v.joinedItems? with _ | items
  · by_cases hr : v.isRenderable = true
    · cases v with
      | eager text safe =>
        simp only [renderValue]
        exact Run.secluded_pure governs _
      | deferred name captured =>
        have script := governs.script hv rfl h.head h.form hc
        simp only [renderValue]
        refine Run.Secluded.wrap governs ?_
        refine (script.run governs (ih.handlers governs h)).bind governs (script.gives governs _)
          fun answer owned => ?_
        exact secluded_finishPair governs owned value
      | pending body captured arguments =>
        have argument : ∀ a ∈ arguments, Run.Secluded R d n
            ((e.handlers t (e.renderNodes depth) (e.renderSection depth t)
              (e.renderValue depth t)).value a c)
            ((e.handlers u (e.renderNodes depth) (e.renderSection depth u)
              (e.renderValue depth u)).value a c) :=
          fun a ha => (ih.handlers governs h).value (hv.part (List.mem_append_right _ ha)) hc
        simp only [renderValue]
        refine Run.Secluded.wrap governs ?_
        refine (Run.secluded_each governs argument).bind_any governs fun rs => ?_
        refine (Body.secluded_callTexts governs hv _).bind governs
          (Body.throughout_callTexts governs hv _) fun w hw => ?_
        refine secluded_finish governs (fun w' same => ?_) value
        cases w with
        | text s => cases same
        | _ =>
          cases same
          exact hw
      | custom label name captured =>
        have script := governs.script hv rfl h.head h.form hc
        simp only [renderValue]
        refine ((script.run governs (ih.handlers governs h)).wrap governs).bind_any governs ?_
        exact secluded_answered governs label
      | eachItem item index last key =>
        have owned : item.Throughout R.owns := hv.part (by simp [Value.parts])
        have position : (Value.mapping (Value.position index last key)).Throughout R.owns :=
          Value.throughout_position governs.ordinary (hv.part (by simp [Value.parts]))
        simp only [renderValue]
        rw [h.isSection]
        refine Run.Secluded.wrap governs ?_
        split
        · exact (ih.handlers governs h).content ((hc.push position).push owned)
        · exact value item owned
      | _ => simp [Value.isRenderable] at hr
    · rw [renderValue_leaf _ hi (by simpa using hr), renderValue_leaf _ hi (by simpa using hr)]
      exact secluded_leaf governs v
  · rw [renderValue_of_items _ hi, renderValue_of_items _ hi]
    refine (Run.secluded_eachItem governs hv (Value.items?_of_joined hi) value).bind_any governs
      fun rs => ?_
    exact Run.secluded_pure governs _

theorem secludes (governs : R.Governs e.host) (depth : Nat) : e.Secludes R d depth := by
  induction depth with
  | zero => constructor <;> intros <;> exact Run.secluded_exhaust governs
  | succ depth ih =>
    refine ⟨?_, ?_, ?_, ?_, fun h hv hc => ih.succ_value governs h hv hc⟩
    · intro n t c hc
      simp only [renderNodes]
      refine (Run.secluded_each governs fun node _ => ?_).bind_any governs fun texts =>
        Run.secluded_pure governs _
      cases node with
      | text s => exact Run.secluded_pure governs _
      | variableTag head escaped =>
        exact secluded_visit governs hc fun m t u v _ h hv => ih.variableTag h hv hc
      | sectionTag head inverted children inner =>
        refine secluded_visit governs hc fun m t u v _ h hv => ?_
        exact (ih.sectionTag h hv hc).bind_any governs fun p => Run.secluded_pure governs _
    · intro n t u v c h hv hc
      simp only [renderVariable]
      cases hi : v.items? with
      | some items =>
        exact (Run.secluded_eachItem governs hv hi fun w hw => ih.variableTag h hw hc).bind_any
          governs fun texts => Run.secluded_pure governs _
      | none =>
        simp only [insert_twin h]
        exact (ih.value h hv hc).bind_any governs fun r => Run.secluded_pure governs _
    · intro n t u v c h hv hc
      simp only [renderSection]
      rw [h.isInverted, h.children]
      split
      · refine (Run.secluded_ofExcept governs _).bind_any governs fun truth => ?_
        split
        · exact Run.secluded_pure governs _
        · exact (ih.nodes n _ hc).bind_any governs fun s => Run.secluded_pure governs _
      · cases hi : v.items? with
        | some items =>
          exact (Run.secluded_eachItem governs hv hi fun w hw => ih.item h hw hc).bind_any
            governs fun texts => Run.secluded_pure governs _
        | none =>
          refine (Run.secluded_ofExcept governs _).bind_any governs fun shown => ?_
          split
          · exact ih.item h hv hc
          · exact Run.secluded_pure governs _
    · intro n t u v c h hv hc
      simp only [renderItem]
      split
      · simp only [insert_twin h]
        exact (ih.value h hv hc).bind_any governs fun r => Run.secluded_pure governs _
      · rw [h.children]
        exact (ih.nodes n _ (hc.push hv)).bind_any governs fun s => Run.secluded_pure governs _

/-- A rendering comes to the same, whether or not another one has been there before, if that one
keeps to a realm of its own. -/
theorem outcome_after {S : Realm σ} (governs : R.Governs e.host) (governs' : S.Governs e.host)
    (apart : ∀ o p, S.leaves o p → R.alike p o) {c c' : Context} (hc : c.Throughout R.owns)
    (hc' : c'.Throughout S.owns) (depth : Nat) (t t' : Template) (w : World σ) :
    (e.renderNodes depth t c (e.renderNodes depth t' c' w).2).1 =
      (e.renderNodes depth t c w).1 := by
  have before := ((secludes governs' depth).nodes 0 t' hc').leaves (d := ⟨.none, 0, 0⟩) (w := w)
    (Nat.zero_le _)
  let after := (e.renderNodes depth t' c' w).2
  let drift : Drift σ := ⟨.none, after.journal.created, w.journal.created⟩
  have journal : after.journal.Beside drift 0 w.journal :=
    ⟨0, Nat.le_refl _, rfl, rfl, fun x hx => absurd hx (Nat.not_lt_zero x)⟩
  exact (((secludes governs depth).nodes 0 t hc).ends ⟨apart _ _ before, journal⟩).1

end Engine

end Stencil
