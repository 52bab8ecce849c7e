-- The order in which an expression calls filters. What is called is evaluated first, then the
-- arguments from left to right, then the filter is applied, once, to their values; the first
-- failure ends it all. Evaluation goes by these rules, in one way only, and asks nothing of the host
-- but the applications.
import Stencil.Proofs.Applications
import Stencil.Proofs.Chains
import Stencil.Proofs.Conduct
import Stencil.Proofs.Visits

namespace Stencil

variable {σ : Type}

/-! ## The rules of evaluation -/

namespace Evaluator

/-- The value may be passed to a filter, or null in its place. -/
def Admits (ev : Evaluator σ) (v : Value) : Prop := v.isMissing = true → ev.policy = .empty

mutual

/-- Evaluating the expression in the first world applies these filters, in this order, and then ends
in the last world. -/
inductive Evaluates (ev : Evaluator σ) (c : Context) :
    Expr → World σ → List (Application σ) → Except Failure Value → World σ → Prop
  | name {n : String} {x : Except Failure Value} {w : World σ} :
    (c.lookup n).mapError .host = x → Evaluates ev c (.name n) w [] x w
  | top {w : World σ} : Evaluates ev c .top w [] (.ok c.top) w
  | noBase {b : Expr} {k : String} {l : List (Application σ)} {failure : Failure}
    {w w' : World σ} : Evaluates ev c b w l (.error failure) w' →
    Evaluates ev c (.key b k) w l (.error failure) w'
  | key {b : Expr} {k : String} {l : List (Application σ)} {v : Value}
    {x : Except Failure Value} {w w' : World σ} : Evaluates ev c b w l (.ok v) w' →
    (v.lookup k).mapError .host = x → Evaluates ev c (.key b k) w l x w'
  | noCallee {f a : Expr} {r : List Expr} {l : List (Application σ)} {failure : Failure}
    {w w' : World σ} : Evaluates ev c f w l (.error failure) w' →
    Evaluates ev c (.call f a r) w l (.error failure) w'
  | noFilter {f a : Expr} {r : List Expr} {l : List (Application σ)} {v : Value}
    {w w' : World σ} : Evaluates ev c f w l (.ok v) w' →
    (∀ g captured, v ≠ .filter g captured) →
    Evaluates ev c (.call f a r) w l
      (.error (.fault ⟨if v.isMissing then .unresolved f.text else .notFilter f.text v.kind, none⟩))
      w'
  | noArguments {f a : Expr} {r : List Expr} {l m : List (Application σ)} {g : Filter}
    {captured : List Value} {failure : Failure} {w w₁ w' : World σ} :
    Evaluates ev c f w l (.ok (.filter g captured)) w₁ →
    EvaluatesAll ev c (a :: r) w₁ m (.error failure) w' →
    Evaluates ev c (.call f a r) w (l ++ m) (.error failure) w'
  | applied {f a : Expr} {r : List Expr} {l m : List (Application σ)} {g : Filter}
    {captured arguments : List Value} {x : Except Failure Value} {w w₁ w₂ w' : World σ} :
    Evaluates ev c f w l (.ok (.filter g captured)) w₁ →
    EvaluatesAll ev c (a :: r) w₁ m (.ok arguments) w₂ →
    Application.Gives ev.host ⟨f, a :: r, g, captured, arguments, w₂⟩ x w' →
    Evaluates ev c (.call f a r) w (l ++ m ++ [⟨f, a :: r, g, captured, arguments, w₂⟩]) x w'

/-- The same for arguments, with the values that are passed to a filter. -/
inductive EvaluatesAll (ev : Evaluator σ) (c : Context) :
    List Expr → World σ → List (Application σ) → Except Failure (List Value) → World σ → Prop
  | nil {w : World σ} : EvaluatesAll ev c [] w [] (.ok []) w
  | noValue {a : Expr} {r : List Expr} {l : List (Application σ)} {failure : Failure}
    {w w' : World σ} : Evaluates ev c a w l (.error failure) w' →
    EvaluatesAll ev c (a :: r) w l (.error failure) w'
  | missing {a : Expr} {r : List Expr} {l : List (Application σ)} {v : Value} {w w' : World σ} :
    Evaluates ev c a w l (.ok v) w' → ¬ ev.Admits v →
    EvaluatesAll ev c (a :: r) w l (.error (.fault ⟨.unresolved a.text, none⟩)) w'
  | passed {a : Expr} {r : List Expr} {l m : List (Application σ)} {v : Value}
    {x : Except Failure (List Value)} {w w₁ w' : World σ} : Evaluates ev c a w l (.ok v) w₁ →
    ev.Admits v → EvaluatesAll ev c r w₁ m x w' →
    EvaluatesAll ev c (a :: r) w (l ++ m) (x.map (v.passed :: ·)) w'

end

variable {ev : Evaluator σ} {c : Context}

theorem callee_of_not_filter {v : Value} (h : ∀ g captured, v ≠ .filter g captured) (f : Expr)
    (w : World σ) : callee f v w =
      (.failed (.fault
        ⟨if v.isMissing then .unresolved f.text else .notFilter f.text v.kind, none⟩), w) := by
  cases v with
  | filter g captured => exact absurd rfl (h g captured)
  | _ => rfl

theorem argument_of_not_admits {v : Value} (h : ¬ ev.Admits v) (a : Expr) :
    ev.argument a v = Run.failWith (.unresolved a.text) := by
  obtain ⟨missing, policy⟩ := Classical.not_imp.1 h
  rw [argument, if_pos missing]
  cases is : ev.policy with
  | empty => exact absurd is policy
  | fail => rfl

theorem argument_of_admits {v : Value} (h : ev.Admits v) (a : Expr) :
    ev.argument a v = pure v.passed := by
  cases v with
  | missing =>
    rw [argument, h rfl]
    rfl
  | _ => rfl

/-- Evaluation goes by the rules, for the whole and for its parts. -/
def Regular (ev : Evaluator σ) (c : Context) (x : Expr) : Prop :=
  ∀ w, ∃ l y w', ev.Evaluates c x w l y w' ∧ ev.evaluate c x w = (Outcome.of y, w')

theorem exists_evaluatesAll : ∀ {es : List Expr}, (∀ x ∈ es, ev.Regular c x) → ∀ w,
    ∃ l y w', ev.EvaluatesAll c es w l y w' ∧ ev.evaluateArguments c es w = (Outcome.of y, w')
  | [], _, w => ⟨_, _, _, .nil, by rw [evaluateArguments]; rfl⟩
  | a :: r, regular, w => by
    obtain ⟨l, y, w₁, rule, ran⟩ := regular a List.mem_cons_self w
    rw [evaluateArguments, Run.bind_apply, ran]
    cases y with
    | error failure => exact ⟨_, _, _, .noValue rule, rfl⟩
    | ok v =>
      by_cases admits : ev.Admits v
      · obtain ⟨m, z, w₂, rules, others⟩ :=
          exists_evaluatesAll (fun x hx => regular x (List.mem_cons_of_mem _ hx)) w₁
        refine ⟨_, _, _, .passed rule admits rules, ?_⟩
        simp only [Outcome.of, argument_of_admits admits, Run.bind_apply, Run.pure_apply, others]
        cases z <;> rfl
      · refine ⟨_, _, _, .missing rule admits, ?_⟩
        simp only [Outcome.of, argument_of_not_admits admits, Run.bind_apply]
        rfl

theorem Regular.key {b : Expr} (h : ev.Regular c b) (k : String) : ev.Regular c (.key b k) := by
  intro w
  obtain ⟨l, y, w₁, rule, ran⟩ := h w
  rw [evaluate, Run.bind_apply, ran]
  cases y with
  | error failure => exact ⟨_, _, _, .noBase rule, rfl⟩
  | ok v =>
    refine ⟨_, _, _, .key rule rfl, ?_⟩
    show Run.ofExcept (v.lookup k) w₁ = _
    cases v.lookup k <;> rfl

theorem Regular.call {f a : Expr} {r : List Expr} (callee : ev.Regular c f)
    (operands : ∀ x ∈ a :: r, ev.Regular c x) : ev.Regular c (.call f a r) := by
  intro w
  obtain ⟨l, y, w₁, rule, ran⟩ := callee w
  rw [evaluate_call, ← evaluateArguments_eq, Run.bind_apply, ran]
  cases y with
  | error failure => exact ⟨_, _, _, .noCallee rule, rfl⟩
  | ok v =>
    by_cases is : ∃ g captured, v = .filter g captured
    · obtain ⟨g, captured, rfl⟩ := is
      obtain ⟨m, z, w₂, rules, passed⟩ := exists_evaluatesAll operands w₁
      simp only [Outcome.of, Evaluator.callee, Run.bind_apply, Run.pure_apply, passed]
      cases z with
      | error failure => exact ⟨_, _, _, .noArguments rule rules, rfl⟩
      | ok arguments =>
        obtain ⟨x, w', gives, applied⟩ :=
          Application.exists_gives ev.host ⟨f, a :: r, g, captured, arguments, w₂⟩
        exact ⟨_, _, _, .applied rule rules gives, applied⟩
    · have noFilter : ∀ g captured, v ≠ .filter g captured := by
        rintro g captured rfl
        exact is ⟨g, captured, rfl⟩
      refine ⟨_, _, _, .noFilter rule noFilter, ?_⟩
      simp only [Run.bind_apply, callee_of_not_filter noFilter, Outcome.of]

theorem regular (x : Expr) : ev.Regular c x := by
  induction x using Expr.induction with
  | name n =>
    intro w
    refine ⟨_, _, _, .name rfl, ?_⟩
    rw [evaluate]
    cases c.lookup n <;> rfl
  | top =>
    intro w
    refine ⟨_, _, _, .top, ?_⟩
    rw [evaluate]
    rfl
  | key b k ih => exact ih.key k
  | call f a r callee operands => exact callee.call operands

/-! ## One account of each evaluation -/

/-- The rules leave no choice for the expression. -/
def Definite (ev : Evaluator σ) (c : Context) (x : Expr) : Prop :=
  ∀ {w : World σ} {l l' y y' w₁ w₂}, ev.Evaluates c x w l y w₁ → ev.Evaluates c x w l' y' w₂ →
    (l, y, w₁) = (l', y', w₂)

theorem EvaluatesAll.unique {es : List Expr} (definite : ∀ x ∈ es, ev.Definite c x)
    {w w₁ w₂ : World σ} {l l' : List (Application σ)} {y y' : Except Failure (List Value)}
    (h : ev.EvaluatesAll c es w l y w₁) (h' : ev.EvaluatesAll c es w l' y' w₂) :
    (l, y, w₁) = (l', y', w₂) := by
  induction es generalizing w l l' y y' with
  | nil =>
    cases h
    cases h'
    rfl
  | cons a r ih =>
    have first := @definite a List.mem_cons_self
    have others := @ih fun x hx => definite x (List.mem_cons_of_mem _ hx)
    -- Both accounts evaluate the first argument alike, which leaves one rule for both.
    cases h with
    | noValue rule =>
      cases h' with
      | noValue rule' =>
        cases first rule rule'
        rfl
      | missing rule' _ | passed rule' _ _ => cases first rule rule'
    | missing rule denied =>
      cases h' with
      | noValue rule' => cases first rule rule'
      | missing rule' _ =>
        cases first rule rule'
        rfl
      | passed rule' admits _ =>
        cases first rule rule'
        exact absurd admits denied
    | passed rule admits rules =>
      cases h' with
      | noValue rule' => cases first rule rule'
      | missing rule' denied =>
        cases first rule rule'
        exact absurd admits denied
      | passed rule' _ rules' =>
        cases first rule rule'
        cases others rules rules'
        rfl

theorem Definite.key {b : Expr} (ih : ev.Definite c b) (k : String) : ev.Definite c (.key b k) := by
  intro w l l' y y' w₁ w₂ h h'
  cases h with
  | noBase rule =>
    cases h' with
    | noBase rule' =>
      cases ih rule rule'
      rfl
    | key rule' _ => cases ih rule rule'
  | key rule found =>
    cases h' with
    | noBase rule' => cases ih rule rule'
    | key rule' found' =>
      cases ih rule rule'
      rw [found.symm.trans found']

theorem Definite.call {f a : Expr} {r : List Expr} (callee : ev.Definite c f)
    (operands : ∀ x ∈ a :: r, ev.Definite c x) : ev.Definite c (.call f a r) := by
  intro w l l' y y' w₁ w₂ h h'
  -- What the callee comes to, and then what the arguments come to, leaves one rule for both.
  cases h with
  | noCallee rule =>
    cases h' with
    | noCallee rule' =>
      cases callee rule rule'
      rfl
    | noFilter rule' _ | noArguments rule' _ | applied rule' _ _ => cases callee rule rule'
  | noFilter rule other =>
    cases h' with
    | noCallee rule' => cases callee rule rule'
    | noFilter rule' _ =>
      cases callee rule rule'
      rfl
    | noArguments rule' _ | applied rule' _ _ =>
      cases callee rule rule'
      exact absurd rfl (other _ _)
  | noArguments rule rules =>
    cases h' with
    | noCallee rule' => cases callee rule rule'
    | noFilter rule' other =>
      cases callee rule rule'
      exact absurd rfl (other _ _)
    | noArguments rule' rules' =>
      cases callee rule rule'
      cases rules.unique operands rules'
      rfl
    | applied rule' rules' _ =>
      cases callee rule rule'
      cases rules.unique operands rules'
  | applied rule rules gives =>
    cases h' with
    | noCallee rule' => cases callee rule rule'
    | noFilter rule' other =>
      cases callee rule rule'
      exact absurd rfl (other _ _)
    | noArguments rule' rules' =>
      cases callee rule rule'
      cases rules.unique operands rules'
    | applied rule' rules' gives' =>
      cases callee rule rule'
      cases rules.unique operands rules'
      cases gives.unique gives'
      rfl

theorem definite (x : Expr) : ev.Definite c x := by
  induction x using Expr.induction with
  | name n =>
    intro w l l' y y' w₁ w₂ h h'
    cases h with | name found => cases h' with | name found' =>
    rw [found.symm.trans found']
  | top =>
    intro w l l' y y' w₁ w₂ h h'
    cases h
    cases h'
    rfl
  | key b k ih => exact ih.key k
  | call f a r callee operands => exact callee.call operands

/-! ## What an evaluation comes to -/

theorem EvaluatesAll.full {es : List Expr} {w w' : World σ} {l : List (Application σ)}
    {arguments : List Value} (h : ev.EvaluatesAll c es w l (.ok arguments) w') :
    ∀ v ∈ arguments, v.isMissing = false := by
  generalize is : Except.ok arguments = y at h
  induction es generalizing w l arguments y with
  | nil =>
    cases h
    cases is
    exact List.forall_mem_nil _
  | cons a r ih =>
    cases h with
    | noValue _ => cases is
    | missing _ _ => cases is
    | @passed _ _ _ _ v y _ _ _ _ _ rules =>
      cases y with
      | error failure => cases is
      | ok others =>
        cases is
        refine List.forall_mem_cons.2 ⟨?_, ih _ rfl rules⟩
        cases v <;> rfl

/-- Evaluating the expression applies the filters of its calls in their order. -/
def Follows (ev : Evaluator σ) (c : Context) (x : Expr) : Prop :=
  ∀ {w : World σ} {l y w'}, ev.Evaluates c x w l y w' → Course ev.host x.sites w l (failure? y) w'

theorem EvaluatesAll.course {es : List Expr} (follows : ∀ x ∈ es, ev.Follows c x)
    {w w' : World σ} {l : List (Application σ)} {y : Except Failure (List Value)}
    (h : ev.EvaluatesAll c es w l y w') :
    Course ev.host (Expr.sitesList es) w l (failure? y) w' := by
  induction es generalizing w l y with
  | nil =>
    cases h
    exact .done
  | cons a r ih =>
    have first := @follows a List.mem_cons_self
    have others := @ih fun x hx => follows x (List.mem_cons_of_mem _ hx)
    cases h with
    | noValue rule => exact (first rule).skip
    | missing rule _ => exact (first rule).stop _
    | @passed _ _ _ _ _ y _ _ _ rule _ rules =>
      have course := (first rule).append (others rules)
      cases y <;> exact course

theorem follows (x : Expr) : ev.Follows c x := by
  induction x using Expr.induction with
  | name n =>
    intro w l y w' h
    cases h
    exact Course.done.ended _
  | top =>
    intro w l y w' h
    cases h
    exact Course.done.ended _
  | key b k ih =>
    intro w l y w' h
    cases h with
    | noBase rule => exact ih rule
    | key rule _ => exact (ih rule).ended y
  | call f a r callee operands =>
    intro w l y w' h
    cases h with
    | noCallee rule => exact ((callee rule).skip).skip
    | noFilter rule _ => exact ((callee rule).stop _).skip
    | noArguments rule rules => exact ((callee rule).append (rules.course operands)).skip
    | applied rule rules gives =>
      exact ((callee rule).append (rules.course operands)).append (.single rules.full gives)

/-- Another host that answers the same applications alike has the expression evaluated alike. -/
def Replays (ev : Evaluator σ) (c : Context) (host : Host σ) (x : Expr) : Prop :=
  ∀ {w : World σ} {l y w'}, ev.Evaluates c x w l y w' →
    (∀ a ∈ l, ∀ z w₁, a.Gives ev.host z w₁ → a.Gives host z w₁) →
    ({ ev with host } : Evaluator σ).Evaluates c x w l y w'

theorem EvaluatesAll.replay {host : Host σ} {es : List Expr}
    (replays : ∀ x ∈ es, ev.Replays c host x) {w w' : World σ} {l : List (Application σ)}
    {y : Except Failure (List Value)} (h : ev.EvaluatesAll c es w l y w')
    (alike : ∀ a ∈ l, ∀ z w₁, a.Gives ev.host z w₁ → a.Gives host z w₁) :
    ({ ev with host } : Evaluator σ).EvaluatesAll c es w l y w' := by
  induction es generalizing w l y with
  | nil =>
    cases h
    exact .nil
  | cons a r ih =>
    have first := @replays a List.mem_cons_self
    have others := @ih fun x hx => replays x (List.mem_cons_of_mem _ hx)
    cases h with
    | noValue rule => exact .noValue (first rule alike)
    | missing rule denied => exact .missing (first rule alike) denied
    | passed rule admits rules =>
      obtain ⟨alike, alike'⟩ := List.forall_mem_append.1 alike
      exact .passed (first rule alike) admits (others rules alike')

theorem replays (host : Host σ) (x : Expr) : ev.Replays c host x := by
  induction x using Expr.induction with
  | name n =>
    intro w l y w' h _
    cases h with
    | name found => exact .name found
  | top =>
    intro w l y w' h _
    cases h
    exact .top
  | key b k ih =>
    intro w l y w' h alike
    cases h with
    | noBase rule => exact .noBase (ih rule alike)
    | key rule found => exact .key (ih rule alike) found
  | call f a r callee operands =>
    intro w l y w' h alike
    cases h with
    | noCallee rule => exact .noCallee (callee rule alike)
    | noFilter rule other => exact .noFilter (callee rule alike) other
    | noArguments rule rules =>
      obtain ⟨alike, alike'⟩ := List.forall_mem_append.1 alike
      exact .noArguments (callee rule alike) (rules.replay operands alike')
    | applied rule rules gives =>
      obtain ⟨alike, last⟩ := List.forall_mem_append.1 alike
      obtain ⟨alike, alike'⟩ := List.forall_mem_append.1 alike
      exact .applied (callee rule alike) (rules.replay operands alike')
        (last _ (List.mem_singleton_self _) _ _ gives)

/-- Evaluation goes by the rules, which tell for every expression, context and policy which filters
are applied to which values. They are applied in the order of the calls, the first failure ends it,
nothing is rendered in between, and nothing else is asked of the host. -/
theorem evaluate_in_order (ev : Evaluator σ) (c : Context) (x : Expr) (w : World σ) :
    ∃ l y w', ev.evaluate c x w = (Outcome.of y, w') ∧ ev.Evaluates c x w l y w' ∧
      (∀ l₁ y₁ w₁, ev.Evaluates c x w l₁ y₁ w₁ → (l₁, y₁, w₁) = (l, y, w')) ∧
      Course ev.host x.sites w l (failure? y) w' ∧ w'.journal = w.journal ∧
      ∀ host, (∀ a ∈ l, ∀ z w₁, a.Gives ev.host z w₁ → a.Gives host z w₁) →
        ({ ev with host } : Evaluator σ).evaluate c x w = ev.evaluate c x w := by
  obtain ⟨l, y, w', rule, ran⟩ := ev.regular x w
  have quiet : w'.journal = w.journal := by
    have obeys : (ev.evaluate c x).Obeys Conduct.quiet := obeys_evaluate ev c x
    exact obeys.any_eq ran
  refine ⟨l, y, w', ran, rule, fun _ _ _ other => definite x other rule, follows x rule, quiet, ?_⟩
  intro host alike
  -- The rules give the other host the same account, and it has only one.
  have other : Regular { ev with host } c x := regular x
  obtain ⟨l₁, y₁, w₁, rule', ran'⟩ := other w
  cases definite x rule' (replays host x rule alike)
  rw [ran, ran']

end Evaluator

end Stencil
