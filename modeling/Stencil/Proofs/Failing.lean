-- How runs fail. A run of several steps fails with the failure of the first step that fails, in the
-- world that the steps before it have left; so going through items fails at one item, and a script
-- fails at one of its requests.
import Stencil.Host
import Stencil.Proofs.Pieces

namespace Stencil

/-! ## Failures on their way -/

namespace Failure

/-- The failure as it leaves a run whose errors of the host are wrapped. -/
def wrapped (cause : HostError → Cause) : Failure → Failure
  | .host error => .fault ⟨cause error, none⟩
  | .fault f => .fault f

/-- The failure as it leaves a tag that stands at the place. -/
def located (l : Location) : Failure → Failure
  | .fault f => .fault (f.locate l)
  | .host error => .host error

end Failure

namespace Run

variable {σ α β : Type} {w w' : World σ} {failure : Failure}

/-- The run fails in this world with this failure. -/
def Fails (r : Run σ α) (w : World σ) (failure : Failure) : Prop := (r w).1 = .failed failure

theorem fails_iff {r : Run σ α} : r.Fails w failure ↔ ∃ w', r w = (.failed failure, w') := by
  constructor
  · intro h
    exact ⟨(r w).2, Prod.ext h rfl⟩
  · rintro ⟨w', h⟩
    exact congrArg Prod.fst h

/-- A run of two steps fails if the first one does, or if the second one does after it. -/
theorem fails_bind {r : Run σ α} {f : α → Run σ β} :
    (r >>= f).Fails w failure ↔
      r.Fails w failure ∨ ∃ a w', r w = (.done a, w') ∧ (f a).Fails w' failure := by
  unfold Fails
  rw [bind_apply]
  rcases r w with ⟨a | e | _, v⟩
  · constructor
    · intro h
      exact .inr ⟨a, v, rfl, h⟩
    · rintro (h | ⟨_, _, same, h⟩)
      · cases h
      · cases same
        exact h
  · simp
  · simp

theorem not_fails_pure {a : α} : ¬ (pure a : Run σ α).Fails w failure := nofun

theorem not_fails_exhaust : ¬ (exhaust : Run σ α).Fails w failure := nofun

theorem fails_fail {e : Failure} : (fail e : Run σ α).Fails w failure ↔ failure = e := by
  unfold Fails fail
  simp [eq_comm]

theorem fails_ofExcept {x : Except HostError α} :
    (ofExcept x : Run σ α).Fails w failure ↔ ∃ error, x = .error error ∧ failure = .host error := by
  cases x with
  | ok a => simp [ofExcept, not_fails_pure]
  | error error => simp [ofExcept, fails_fail]

theorem fails_bind_ofExcept {x : Except HostError α} {f : α → Run σ β} :
    (ofExcept x >>= f).Fails w failure ↔
      (∃ error, x = .error error ∧ failure = .host error) ∨
        ∃ a, x = .ok a ∧ (f a).Fails w failure := by
  rw [fails_bind, fails_ofExcept]
  refine or_congr_right ?_
  cases x with
  | ok a => simp [ofExcept, and_assoc]
  | error error => simp [ofExcept, fail]

/-- What is done with the result of a run does not let it fail. -/
theorem fails_bind_pure {r : Run σ α} {f : α → β} :
    (do return f (← r) : Run σ β).Fails w failure ↔ r.Fails w failure := by
  rw [fails_bind]
  exact or_iff_left fun ⟨_, _, _, h⟩ => not_fails_pure h

theorem fails_wrap {r : Run σ α} {cause : HostError → Cause} :
    (r.wrap cause).Fails w failure ↔
      ∃ inner, r.Fails w inner ∧ failure = inner.wrapped cause := by
  unfold Fails
  rcases hr : r w with ⟨a | inner | _, v⟩
  · simp [wrap, onFailure, hr]
  · have wrapped : r.wrap cause w = (.failed (inner.wrapped cause), v) := by
      unfold wrap onFailure
      rw [hr]
      cases inner <;> rfl
    simp [wrapped, eq_comm]
  · simp [wrap, onFailure, hr]

/-! ## Going through items -/

/-- Going through the elements comes to one of them: the runs for those before it end with values.
-/
inductive Comes (f : α → Run σ β) : List α → World σ → α → World σ → Prop
  | here {a : α} {rest : List α} {w : World σ} : Comes f (a :: rest) w a w
  | later {a x : α} {rest : List α} {b : β} {w w₁ w' : World σ} : f a w = (.done b, w₁) →
    Comes f rest w₁ x w' → Comes f (a :: rest) w x w'

theorem fails_each {f : α → Run σ β} {l : List α} :
    (each f l).Fails w failure ↔ ∃ a w', Comes f l w a w' ∧ (f a).Fails w' failure := by
  induction l generalizing w with
  | nil =>
    refine iff_of_false not_fails_pure ?_
    rintro ⟨_, _, h, _⟩
    cases h
  | cons a rest ih =>
    rw [each, fails_bind]
    constructor
    · rintro (h | ⟨b, w₁, done, h⟩)
      · exact ⟨a, w, .here, h⟩
      · obtain ⟨x, w', comes, h⟩ := ih.1 (fails_bind_pure.1 h)
        exact ⟨x, w', .later done comes, h⟩
    · rintro ⟨x, w', comes, h⟩
      cases comes with
      | here => exact .inl h
      | later done comes => exact .inr ⟨_, _, done, fails_bind_pure.2 (ih.2 ⟨x, w', comes, h⟩)⟩

/-- Drawing from a stream comes to what it gives, an item or something else: the runs for the items
before it end with values. -/
inductive Draws (f : Value → Run σ β) (id : Nat) (items : List Value) (ending : Option Failure) :
    Nat → World σ → Draw → World σ → Prop
  | here {bound : Nat} {w : World σ} {next : Draw} {o : Outside σ} :
    w.outside.pull id items ending = (next, o) →
    Draws f id items ending (bound + 1) w next { w with outside := o }
  | later {bound : Nat} {w w₁ w' : World σ} {item : Value} {next : Draw} {o : Outside σ} {b : β} :
    w.outside.pull id items ending = (.item item, o) →
    f item { w with outside := o } = (.done b, w₁) → Draws f id items ending bound w₁ next w' →
    Draws f id items ending (bound + 1) w next w'

theorem drain_apply (f : Value → Run σ β) (id : Nat) (items : List Value)
    (ending : Option Failure) (bound : Nat) (w : World σ) :
    drain f id items ending (bound + 1) w =
      match w.outside.pull id items ending with
      | (.ended, o) => (.done [], { w with outside := o })
      | (.raised failure, o) => (.failed failure, { w with outside := o })
      | (.item item, o) =>
        (do return (← f item) :: (← drain f id items ending bound)) { w with outside := o } := by
  simp only [drain, bind_apply, outside]
  rcases w.outside.pull id items ending with ⟨_ | _ | _, o⟩ <;> rfl

theorem fails_drain {f : Value → Run σ β} {id : Nat} {items : List Value} {ending : Option Failure}
    {bound : Nat} :
    (drain f id items ending bound).Fails w failure ↔
      (∃ v w', Draws f id items ending bound w (.item v) w' ∧ (f v).Fails w' failure) ∨
        ∃ w', Draws f id items ending bound w (.raised failure) w' := by
  induction bound generalizing w with
  | zero =>
    refine iff_of_false not_fails_pure ?_
    rintro (⟨_, _, h, _⟩ | ⟨_, h⟩) <;> cases h
  | succ bound ih =>
    rcases pull : w.outside.pull id items ending with ⟨next, o⟩
    have first {next' : Draw} {w' : World σ}
        (h : Draws f id items ending (bound + 1) w next' w') :
        (next' = next ∧ w' = { w with outside := o }) ∨ ∃ item b w₁, next = .item item ∧
          f item { w with outside := o } = (.done b, w₁) ∧
            Draws f id items ending bound w₁ next' w' := by
      cases h with
      | here found =>
        cases pull.symm.trans found
        exact .inl ⟨rfl, rfl⟩
      | later found done h =>
        cases pull.symm.trans found
        exact .inr ⟨_, _, _, rfl, done, h⟩
    rw [Fails, drain_apply, pull]
    cases next with
    | ended =>
      refine iff_of_false not_fails_pure ?_
      rintro (⟨_, _, h, _⟩ | ⟨_, h⟩) <;> rcases first h with ⟨h, _⟩ | ⟨_, _, _, h, _⟩ <;> cases h
    | raised raised =>
      refine fails_fail.trans ?_
      constructor
      · rintro rfl
        exact .inr ⟨_, .here pull⟩
      · rintro (⟨_, _, h, _⟩ | ⟨_, h⟩) <;> rcases first h with ⟨h, _⟩ | ⟨_, _, _, h, _⟩ <;> cases h
        rfl
    | item item =>
      refine fails_bind.trans ?_
      constructor
      · rintro (h | ⟨b, w₁, done, h⟩)
        · exact .inl ⟨item, _, .here pull, h⟩
        · rcases ih.1 (fails_bind_pure.1 h) with ⟨x, w', draws, h⟩ | ⟨w', draws⟩
          · exact .inl ⟨x, w', .later pull done draws, h⟩
          · exact .inr ⟨w', .later pull done draws⟩
      · rintro (⟨x, w', h, fails⟩ | ⟨w', h⟩) <;>
          rcases first h with ⟨same, rfl⟩ | ⟨_, b, w₁, same, done, draws⟩ <;> cases same
        · exact .inl fails
        · exact .inr ⟨b, w₁, done, fails_bind_pure.2 (ih.2 (.inl ⟨x, w', draws, fails⟩))⟩
        · exact .inr ⟨b, w₁, done, fails_bind_pure.2 (ih.2 (.inr ⟨w', draws⟩))⟩

/-- Going through the items of a sequence comes to one of them. -/
def ComesToItem (f : Value → Run σ β) : Items → World σ → Value → World σ → Prop
  | .fixed items, w, v, w' => Comes f items w v w'
  | .stream id items ending, w, v, w' => Draws f id items ending (items.length + 1) w (.item v) w'

/-- Going through the items of a sequence comes to a failure that it raises behind the last one. -/
def ComesToEnd (f : Value → Run σ β) : Items → World σ → Failure → World σ → Prop
  | .fixed _, _, _, _ => False
  | .stream id items ending, w, failure, w' =>
    Draws f id items ending (items.length + 1) w (.raised failure) w'

theorem fails_eachItem {f : Value → Run σ β} {items : Items} :
    (eachItem f items).Fails w failure ↔
      (∃ v w', ComesToItem f items w v w' ∧ (f v).Fails w' failure) ∨
        ∃ w', ComesToEnd f items w failure w' := by
  cases items with
  | fixed items => exact fails_each.trans (or_iff_left fun ⟨_, h⟩ => h).symm
  | stream id items ending => exact fails_drain

end Run

/-! ## Scripts -/

namespace Script

variable {σ : Type}

/-- The script comes to what remains of it: the requests before that are answered. -/
inductive ComesTo (h : Handlers σ) : Script σ → World σ → Script σ → World σ → Prop
  | here {s : Script σ} {w : World σ} : ComesTo h s w s w
  | content {c : Context} {next : Rendering → Script σ} {r : Rendering} {s : Script σ}
    {w w₁ w' : World σ} : h.content c w = (.done r, w₁) → ComesTo h (next r) w₁ s w' →
    ComesTo h (.content c next) w s w'
  | value {v : Value} {c : Context} {next : Rendering → Script σ} {r : Rendering} {s : Script σ}
    {w w₁ w' : World σ} : h.value v c w = (.done r, w₁) → ComesTo h (next r) w₁ s w' →
    ComesTo h (.value v c next) w s w'
  | template {t : Template} {c : Context} {next : String → Script σ} {text : String} {s : Script σ}
    {w w₁ w' : World σ} : h.template t c w = (.done text, w₁) → ComesTo h (next text) w₁ s w' →
    ComesTo h (.template t c next) w s w'
  | escape {text : String} {next : String → Script σ} {s : Script σ} {w w' : World σ} :
    ComesTo h (next (h.escape text)) w s w' → ComesTo h (.escape text next) w s w'
  | state {next : TagState → Script σ} {state : TagState} {s : Script σ} {w w₁ w' : World σ} :
    h.state w = (.done state, w₁) → ComesTo h (next state) w₁ s w' →
    ComesTo h (.state next) w s w'
  | outside {change : Outside σ → Outside σ} {next : Outside σ → Script σ} {s : Script σ}
    {w w' : World σ} :
    ComesTo h (next w.outside) { w with outside := change w.outside } s w' →
    ComesTo h (.outside change next) w s w'

/-- The script fails at once: by itself, or at its next request. -/
def Stops (h : Handlers σ) (w : World σ) (failure : Failure) : Script σ → Prop
  | .fail own => failure = own
  | .content c _ => (h.content c).Fails w failure
  | .value v c _ => (h.value v c).Fails w failure
  | .template t c _ => (h.template t c).Fails w failure
  | .state _ => h.state.Fails w failure
  | .done _ | .escape .. | .outside .. => False

/-- A script that asks for something fails if its request does, or if it fails after the answer. -/
theorem fails_request {α : Type} {h : Handlers σ} {request : Run σ α} {next : α → Script σ}
    {s : Script σ} {w : World σ} {failure : Failure}
    (run : s.run h = request >>= fun a => (next a).run h)
    (stops : ∀ w failure, s.Stops h w failure ↔ request.Fails w failure)
    (later : ∀ {a w₁ t w'}, request w = (.done a, w₁) → (next a).ComesTo h w₁ t w' →
      s.ComesTo h w t w')
    (comes : ∀ {t w'}, s.ComesTo h w t w' → (t = s ∧ w' = w) ∨
      ∃ a w₁, request w = (.done a, w₁) ∧ (next a).ComesTo h w₁ t w')
    (ih : ∀ a w, ((next a).run h).Fails w failure ↔
      ∃ t w', (next a).ComesTo h w t w' ∧ t.Stops h w' failure) :
    (s.run h).Fails w failure ↔ ∃ t w', s.ComesTo h w t w' ∧ t.Stops h w' failure := by
  rw [run, Run.fails_bind]
  constructor
  · rintro (failed | ⟨a, w₁, done, failed⟩)
    · exact ⟨s, w, .here, (stops w failure).2 failed⟩
    · obtain ⟨t, w', comesTo, stopped⟩ := (ih a w₁).1 failed
      exact ⟨t, w', later done comesTo, stopped⟩
  · rintro ⟨t, w', comesTo, stopped⟩
    rcases comes comesTo with ⟨rfl, rfl⟩ | ⟨a, w₁, done, comesTo⟩
    · exact .inl ((stops _ failure).1 stopped)
    · exact .inr ⟨a, w₁, done, (ih a w₁).2 ⟨t, w', comesTo, stopped⟩⟩

theorem fails_run {h : Handlers σ} {s : Script σ} {w : World σ} {failure : Failure} :
    (s.run h).Fails w failure ↔ ∃ t w', s.ComesTo h w t w' ∧ t.Stops h w' failure := by
  induction s generalizing w with
  | done answer =>
    refine iff_of_false Run.not_fails_pure ?_
    rintro ⟨_, _, h, stopped⟩
    cases h
    exact stopped
  | fail own =>
    rw [run, Run.fails_fail]
    constructor
    · exact fun same => ⟨_, w, .here, same⟩
    · rintro ⟨_, _, h, stopped⟩
      cases h
      exact stopped
  | content c next ih =>
    refine fails_request rfl (fun _ _ => .rfl) .content (fun h => ?_) fun a w => ih a
    cases h with
    | here => exact .inl ⟨rfl, rfl⟩
    | content done h => exact .inr ⟨_, _, done, h⟩
  | value v c next ih =>
    refine fails_request rfl (fun _ _ => .rfl) .value (fun h => ?_) fun a w => ih a
    cases h with
    | here => exact .inl ⟨rfl, rfl⟩
    | value done h => exact .inr ⟨_, _, done, h⟩
  | template t c next ih =>
    refine fails_request rfl (fun _ _ => .rfl) .template (fun h => ?_) fun a w => ih a
    cases h with
    | here => exact .inl ⟨rfl, rfl⟩
    | template done h => exact .inr ⟨_, _, done, h⟩
  | escape text next ih =>
    rw [run, ih]
    constructor
    · rintro ⟨t, w', h, stopped⟩
      exact ⟨t, w', .escape h, stopped⟩
    · rintro ⟨t, w', h, stopped⟩
      cases h with
      | here => exact stopped.elim
      | escape h => exact ⟨t, w', h, stopped⟩
  | state next ih =>
    refine fails_request rfl (fun _ _ => .rfl) .state (fun h => ?_) fun a w => ih a
    cases h with
    | here => exact .inl ⟨rfl, rfl⟩
    | state done h => exact .inr ⟨_, _, done, h⟩
  | outside change next ih =>
    have next (w : World σ) : ((Script.outside change next).run h).Fails w failure ↔
        ((next w.outside).run h).Fails { w with outside := change w.outside } failure := .rfl
    rw [next, ih]
    constructor
    · rintro ⟨t, w', h, stopped⟩
      exact ⟨t, w', .outside h, stopped⟩
    · rintro ⟨t, w', h, stopped⟩
      cases h with
      | here => exact stopped.elim
      | outside h => exact ⟨t, w', h, stopped⟩

end Script

end Stencil
