-- Values whose rendering does not look at the tag. What is rendered for such a value depends on how
-- far its tag has come and on whether the tag escapes, but neither on the expression and the place
-- of the tag nor on the tags that were created before it; so two tags insert the same for it.
import Stencil.Proofs.Seclusion
import Stencil.Proofs.TagStates

namespace Stencil

variable {σ : Type}

open Run (Gives)

/-! ## The realm of everything -/

namespace Value

mutual

theorem throughout_any : (v : Value) → v.Throughout fun _ => True
  | .list items | .tuple items | .stream _ _ items _ => ⟨trivial, throughout_all items⟩
  | .deferred _ captured | .custom _ _ captured | .filter _ captured | .function _ _ captured =>
    ⟨trivial, throughout_all captured⟩
  | .pending _ captured arguments =>
    ⟨trivial, List.forall_mem_append.2 ⟨throughout_all captured, throughout_all arguments⟩⟩
  | .mapping entries => ⟨trivial, throughout_entries entries⟩
  | .object _ attributes => ⟨trivial, throughout_attributes attributes⟩
  | .collection _ items attributes =>
    ⟨trivial, List.forall_mem_append.2 ⟨throughout_all items, throughout_attributes attributes⟩⟩
  | .eachItem item _ _ key =>
    ⟨trivial, List.forall_mem_cons.2
      ⟨item.throughout_any, List.forall_mem_singleton.2 key.throughout_any⟩⟩
  | .missing | .null | .bool _ | .int _ | .float _ | .text _ | .markup _ | .bytes _ | .day _
  | .moment _ | .range .. | .safeObject .. | .eager .. => .simple trivial rfl

theorem throughout_all : (l : List Value) → ∀ u ∈ l, u.Throughout fun _ => True
  | [] => nofun
  | v :: rest => List.forall_mem_cons.2 ⟨v.throughout_any, throughout_all rest⟩

theorem throughout_entries : (l : List (Value × Value)) →
    ∀ u ∈ l.map Prod.fst ++ l.map Prod.snd, u.Throughout fun _ => True
  | [] => nofun
  | (key, v) :: rest => by
    obtain ⟨keys, values⟩ := List.forall_mem_append.1 (throughout_entries rest)
    exact List.forall_mem_append.2 ⟨List.forall_mem_cons.2 ⟨key.throughout_any, keys⟩,
      List.forall_mem_cons.2 ⟨v.throughout_any, values⟩⟩

theorem throughout_attributes : (l : List (String × Value)) →
    ∀ u ∈ l.map Prod.snd, u.Throughout fun _ => True
  | [] => nofun
  | (_, v) :: rest => List.forall_mem_cons.2 ⟨v.throughout_any, throughout_attributes rest⟩

end
end Value

theorem Context.throughout_any (c : Context) : c.Throughout fun _ => True :=
  fun s _ => ⟨s.value.throughout_any, fun f _ => f.2.throughout_any⟩

/-- Everything outside belongs to a rendering, which may change all of it. -/
def Realm.whole : Realm σ := ⟨fun _ => True, Eq, fun _ _ => True⟩

theorem Realm.step_whole {α : Type} (f : Outside σ → α × Outside σ) :
    (Realm.whole : Realm σ).Step f where
  leaves _ := trivial
  same := by
    rintro o p rfl
    exact ⟨rfl, rfl⟩

theorem Script.secluded_whole (s : Script σ) : s.Secluded Realm.whole s := by
  induction s with
  | done answer => exact .done fun v _ => v.throughout_any
  | fail failure => exact .fail failure
  | content c next ih => exact .content c.throughout_any ih
  | value v c next ih => exact .value v.throughout_any c.throughout_any ih
  | template t c next ih => exact .template t c.throughout_any ih
  | escape s next ih => exact .escape s ih
  | state next ih => exact .state ih
  | outside change next ih =>
    refine .outside (fun _ => trivial) ?_ ?_
    · rintro o p rfl
      exact rfl
    · rintro o p rfl
      exact ih o

/-- The host does not look at the numbers of tags. -/
def Host.Unnumbered (host : Host σ) : Prop :=
  ∀ name captured (t u : Tag) c, t.head = u.head → t.form = u.form →
    host.script name captured t c = host.script name captured u c

theorem Realm.governs_whole {host : Host σ} (unnumbered : host.Unnumbered) :
    Realm.whole.Governs host where
  ordinary := by constructor <;> intros <;> trivial
  markup _ := trivial
  pending _ _ _ _ := trivial
  alike_refl _ := rfl
  leaves_refl _ := trivial
  leaves_trans _ _ := trivial
  call _ _ _ := step_whole _
  result := fun {_ u} _ _ _ _ _ _ _ _ _ => u.throughout_any
  pull _ := step_whole _
  script := by
    intro v name captured t u c _ _ head form _
    rw [unnumbered name captured t u c head form]
    exact Script.secluded_whole _

/-! ## Two tags -/

/-- Two worlds in which the same is found outside, and in which a tag of each has come equally
far. -/
structure World.Paired (t u : Tag) (w v : World σ) : Prop where
  outside : w.outside = v.outside
  first : t.id < w.journal.created
  second : u.id < v.journal.created
  state : w.journal.stateOf t.id = v.journal.stateOf u.id

namespace Run

variable {α β : Type} {t u : Tag}

/-- In paired worlds the runs end alike, and leave paired worlds. -/
def Echoes (t u : Tag) (r s : Run σ α) : Prop :=
  ∀ ⦃w v⦄, w.Paired t u v → (r w).1 = (s v).1 ∧ (r w).2.Paired t u (s v).2

/-- Runs that leave the two tags alone. -/
theorem echoes_of_secluded {r s : Run σ α} (secluded : ∀ d, Secluded Realm.whole d 0 r s)
    (hr : r.Obeys .tidy) (hs : s.Obeys .tidy) : Echoes t u r s := by
  intro w v paired
  let d : Drift σ := ⟨.none, w.journal.created, v.journal.created⟩
  have journal : w.journal.Beside d 0 v.journal :=
    ⟨0, Nat.le_refl _, rfl, rfl, fun x hx => absurd hx (Nat.not_lt_zero x)⟩
  obtain ⟨same, near⟩ := (secluded d).ends ⟨paired.outside, journal⟩
  have first : w.Orderly (r w).2 := hr.any w
  have second : v.Orderly (s v).2 := hs.any v
  refine ⟨same, near.outside, ?_, ?_, ?_⟩
  · exact Nat.lt_of_lt_of_le paired.first first.created_le
  · exact Nat.lt_of_lt_of_le paired.second second.created_le
  · rw [first.stateOf_eq paired.first, second.stateOf_eq paired.second, paired.state]

theorem echoes_still {r : Run σ α} (outcome : Outcome α) (h : ∀ w, r w = (outcome, w)) :
    Echoes t u r r := by
  intro w v paired
  rw [h, h]
  exact ⟨rfl, paired⟩

theorem echoes_pure (a : α) : Echoes t u (pure a : Run σ α) (pure a) :=
  echoes_still (.done a) fun _ => rfl

theorem echoes_fail (failure : Failure) :
    Echoes t u (fail failure : Run σ α) (fail failure) :=
  echoes_still (.failed failure) fun _ => rfl

theorem echoes_outside (f : Outside σ → α × Outside σ) : Echoes t u (outside f) (outside f) := by
  intro w v paired
  unfold Run.outside
  rw [paired.outside]
  exact ⟨rfl, rfl, paired.first, paired.second, paired.state⟩

theorem Echoes.bind {P : α → Prop} {r s : Run σ α} {f g : α → Run σ β} (h : Echoes t u r s)
    (gives : Gives P r) (hf : ∀ a, P a → Echoes t u (f a) (g a)) :
    Echoes t u (r >>= f) (s >>= g) := by
  intro w v paired
  obtain ⟨same, paired⟩ := h paired
  rw [bind_apply, bind_apply]
  rcases hr : r w with ⟨a | e | _, w'⟩ <;> rcases hs : s v with ⟨b | e' | _, v'⟩ <;>
    rw [hr, hs] at same paired <;> cases same
  · exact hf a (gives.done hr) paired
  · exact ⟨rfl, paired⟩
  · exact ⟨rfl, paired⟩

theorem Echoes.bind_any {r s : Run σ α} {f g : α → Run σ β} (h : Echoes t u r s)
    (hf : ∀ a, Echoes t u (f a) (g a)) : Echoes t u (r >>= f) (s >>= g) :=
  h.bind (gives_any r) fun a _ => hf a

theorem Echoes.map {r s : Run σ α} (h : Echoes t u r s) (f : α → β) :
    Echoes t u (r >>= fun a => pure (f a)) (s >>= fun a => pure (f a)) :=
  h.bind_any fun a => echoes_pure (f a)

theorem Echoes.wrap {r s : Run σ α} (h : Echoes t u r s) (cause : HostError → Cause) :
    Echoes t u (r.wrap cause) (s.wrap cause) := by
  intro w v paired
  obtain ⟨same, paired⟩ := h paired
  unfold Run.wrap onFailure
  rcases hr : r w with ⟨a | e | _, w'⟩ <;> rcases hs : s v with ⟨b | e' | _, v'⟩ <;>
    rw [hr, hs] at same paired <;> cases same
  · exact ⟨rfl, paired⟩
  · cases e <;> exact ⟨rfl, paired⟩
  · exact ⟨rfl, paired⟩

theorem Echoes.each {f g : α → Run σ β} {l : List α} (h : ∀ a ∈ l, Echoes t u (f a) (g a)) :
    Echoes t u (Run.each f l) (Run.each g l) := by
  induction l with
  | nil => exact echoes_pure []
  | cons a rest ih =>
    obtain ⟨first, others⟩ := List.forall_mem_cons.1 h
    exact first.bind_any fun b => (ih others).map (b :: ·)

theorem Echoes.drain {f g : Value → Run σ β} {items : List Value}
    (h : ∀ v ∈ items, Echoes t u (f v) (g v)) (id : Nat) (ending : Option Failure) (bound : Nat) :
    Echoes t u (Run.drain f id items ending bound) (Run.drain g id items ending bound) := by
  induction bound with
  | zero => exact echoes_pure []
  | succ bound ih =>
    refine (echoes_outside _).bind (ends_pull id items ending) fun next known => ?_
    cases known with
    | item mem => exact (h _ mem).bind_any fun b => ih.map (b :: ·)
    | raised ends => exact echoes_fail _
    | ended => exact echoes_pure []

theorem Echoes.eachItem {f g : Value → Run σ β} {items : Items}
    (h : ∀ v ∈ items.values, Echoes t u (f v) (g v)) :
    Echoes t u (Run.eachItem f items) (Run.eachItem g items) := by
  cases items with
  | fixed items => exact Echoes.each h
  | stream id items ending => exact Echoes.drain h id ending _

end Run

open Run (Echoes)

variable {host : Host σ} {p : Value → Prop} {t u : Tag}

/-! ## Scripts -/

/-- Every value that the script asks for or answers has the property. -/
inductive Script.Asks (p : Value → Prop) : Script σ → Prop
  | done {answer : Answer} : (∀ v, answer = .value v → p v) → Asks p (.done answer)
  | fail (failure : Failure) : Asks p (.fail failure)
  | content (c : Context) {next : Rendering → Script σ} : (∀ r, Asks p (next r)) →
    Asks p (.content c next)
  | value {v : Value} (c : Context) {next : Rendering → Script σ} : p v → (∀ r, Asks p (next r)) →
    Asks p (.value v c next)
  | template (t : Template) (c : Context) {next : String → Script σ} : (∀ s, Asks p (next s)) →
    Asks p (.template t c next)
  | escape (s : String) {next : String → Script σ} : (∀ s, Asks p (next s)) →
    Asks p (.escape s next)
  | state {next : TagState → Script σ} : (∀ s, Asks p (next s)) → Asks p (.state next)
  | outside (change : Outside σ → Outside σ) {next : Outside σ → Script σ} :
    (∀ o, Asks p (next o)) → Asks p (.outside change next)

/-- Handlers that meet the requests for two tags alike. -/
structure Script.Handlers.Echo (p : Value → Prop) (t u : Tag) (h k : Handlers σ) : Prop where
  content : ∀ c, Echoes t u (h.content c) (k.content c)
  value : ∀ {v}, p v → ∀ c, Echoes t u (h.value v c) (k.value v c)
  template : ∀ t' c, Echoes t u (h.template t' c) (k.template t' c)
  escape : h.escape = k.escape
  state : Echoes t u h.state k.state

theorem Script.Asks.run {s : Script σ} {h k : Handlers σ} (asks : s.Asks p)
    (echo : h.Echo p t u k) : Echoes t u (s.run h) (s.run k) := by
  induction asks with
  | done _ => exact Run.echoes_pure _
  | fail failure => exact Run.echoes_fail failure
  | content c _ ih => exact (echo.content c).bind_any ih
  | value c hv _ ih => exact (echo.value hv c).bind_any ih
  | template t c _ ih => exact (echo.template t c).bind_any ih
  | escape s _ ih =>
    rw [Script.run, Script.run, echo.escape]
    exact ih _
  | state _ ih => exact echo.state.bind_any ih
  | outside change _ ih => exact (Run.echoes_outside _).bind_any ih

theorem Script.Asks.gives {s : Script σ} (asks : s.Asks p) (h : Handlers σ) :
    Gives (fun answer => ∀ v, answer = .value v → p v) (s.run h) := by
  induction asks with
  | done owned => exact Run.ends_pure owned
  | fail failure => exact Run.ends_fail trivial
  | content _ _ ih => exact (Run.gives_any _).bind_any ih
  | value _ _ _ ih => exact (Run.gives_any _).bind_any ih
  | template _ _ _ ih => exact (Run.gives_any _).bind_any ih
  | escape s _ ih => exact ih _
  | state _ ih => exact (Run.gives_any _).bind_any ih
  | outside _ _ ih => exact (Run.gives_any _).bind_any ih

/-! ## Values -/

/-- Values that have the property are rendered for a variable tag without a look at it: the scripts
behind them are the same for all tags that escape alike, and so it is with what is rendered for
these values in turn. -/
structure Host.OverlooksTags (host : Host σ) (p : Value → Prop) : Prop where
  items : ∀ {v items}, p v → v.items? = some items → ∀ u ∈ items.values, p u
  item : ∀ {item index last key}, p (.eachItem item index last key) → p item
  argument : ∀ {body captured arguments}, p (.pending body captured arguments) →
    ∀ a ∈ arguments, p a
  result : ∀ {body captured arguments}, p (.pending body captured arguments) →
    ∀ texts, Gives p (body.callTexts host captured texts)
  script : ∀ {v name captured escaped} {t u : Tag}, p v → v.script? = some (name, captured) →
    t.form = .variableTag escaped → u.form = .variableTag escaped →
    ∀ c, host.script name captured t c = host.script name captured u c
  asks : ∀ {v name captured escaped} {t : Tag}, p v → v.script? = some (name, captured) →
    t.form = .variableTag escaped → ∀ c, (host.script name captured t c).Asks p

namespace Engine

variable {e : Engine σ} {depth : Nat} {escaped : Bool}

/-- At one depth, values with the property are rendered alike for the two tags. -/
structure Echoed (e : Engine σ) (p : Value → Prop) (t u : Tag) (depth : Nat) : Prop where
  variableTag : ∀ {v}, p v → ∀ c,
    Echoes t u (e.renderVariable depth t v c) (e.renderVariable depth u v c)
  value : ∀ {v}, p v → ∀ c, Echoes t u (e.renderValue depth t v c) (e.renderValue depth u v c)

/-- Templates do not know for which tag they are rendered. -/
theorem echoes_nodes (unnumbered : e.host.Unnumbered) (depth : Nat) (t' : Template) (c : Context) :
    Echoes t u (e.renderNodes depth t' c) (e.renderNodes depth t' c) :=
  Run.echoes_of_secluded
    (fun _ => (secludes (Realm.governs_whole unnumbered) depth).nodes 0 t' c.throughout_any)
    ((e.tidies depth).nodes t' c) ((e.tidies depth).nodes t' c)

theorem echoes_leaf (unnumbered : e.host.Unnumbered) (v : Value) :
    Echoes t u (leaf v : Run σ Rendering) (leaf v) :=
  Run.echoes_of_secluded (fun _ => secluded_leaf (Realm.governs_whole unnumbered) v)
    (obeys_leaf v) (obeys_leaf v)

theorem echoes_callTexts (unnumbered : host.Unnumbered) (body : Body TextFunction)
    (captured : List Value) (texts : List Passage) :
    Echoes t u (body.callTexts host captured texts) (body.callTexts host captured texts) :=
  Run.echoes_of_secluded
    (fun _ => Body.secluded_callTexts (Realm.governs_whole unnumbered)
      (Value.throughout_any (.pending body captured [])) texts)
    (body.obeys_callTexts captured texts) (body.obeys_callTexts captured texts)

theorem echoes_state :
    Echoes t u (do return (← Run.journal id).stateOf t.id : Run σ TagState)
      (do return (← Run.journal id).stateOf u.id) :=
  fun _ _ paired => ⟨congrArg Outcome.done paired.state, paired⟩

theorem echoes_finish {f g : Value → Run σ Rendering} {answer : Answer}
    (known : ∀ v, answer = .value v → p v) (h : ∀ {v}, p v → Echoes t u (f v) (g v)) :
    Echoes t u (finish f answer) (finish g answer) := by
  cases answer with
  | rendering r => exact Run.echoes_pure r
  | value v => exact h (known v rfl)

theorem echoes_finishPair {f g : Value → Run σ Rendering} {answer : Answer}
    (known : ∀ v, answer = .value v → p v) (h : ∀ {v}, p v → Echoes t u (f v) (g v)) :
    Echoes t u (finishPair f answer) (finishPair g answer) := by
  cases answer with
  | rendering r => exact Run.echoes_pure r
  | value v =>
    simp only [finishPair]
    cases pair? v with
    | some r => exact Run.echoes_pure r
    | none => exact h (known v rfl)

theorem echoes_answered (label : String) (answer : Answer) :
    Echoes t u (answered label answer : Run σ Rendering) (answered label answer) := by
  unfold answered
  split
  · exact Run.echoes_pure _
  · split
    · exact Run.echoes_pure _
    · exact Run.echoes_pure _
    · exact Run.echoes_pure _
    · exact Run.echoes_fail _

theorem Echoed.handlers (unnumbered : e.host.Unnumbered) (ih : e.Echoed p t u depth)
    (ht : t.form = .variableTag escaped) (hu : u.form = .variableTag escaped) :
    (e.handlersAt depth t).Echo p t u (e.handlersAt depth u) where
  content c := by
    simp only [handlersAt, Engine.handlers, contentOf, Tag.isSection, ht, hu]
    exact Run.echoes_pure _
  value hv c := by
    simp only [handlersAt, Engine.handlers, valueFor, Tag.isSection, ht, hu]
    exact ih.value hv c
  template := echoes_nodes unnumbered depth
  escape := by
    funext text
    simp only [handlersAt, Engine.handlers, escapeFor, Tag.escaped, ht, hu]
  state := echoes_state

theorem Echoed.succ_value (unnumbered : e.host.Unnumbered) (overlooks : e.host.OverlooksTags p)
    (ih : e.Echoed p t u depth) (ht : t.form = .variableTag escaped)
    (hu : u.form = .variableTag escaped) {v : Value} (hv : p v) (c : Context) :
    Echoes t u (e.renderValue (depth + 1) t v c) (e.renderValue (depth + 1) u v c) := by
  have handlers := ih.handlers unnumbered ht hu
  rcases hi : v.joinedItems? with _ | items
  · by_cases hr : v.isRenderable = true
    · cases v with
      | eager text safe =>
        simp only [renderValue]
        exact Run.echoes_pure _
      | deferred name captured =>
        have asks := overlooks.asks hv rfl ht c
        simp only [renderValue, ← overlooks.script hv rfl ht hu c]
        refine Echoes.wrap ((asks.run handlers).bind (asks.gives _) fun answer known => ?_) _
        exact echoes_finishPair known fun hw => ih.value hw c
      | pending body captured arguments =>
        simp only [renderValue]
        refine Echoes.wrap ?_ _
        refine (Echoes.each fun a ha => ?_).bind_any fun rs => ?_
        · exact handlers.value (overlooks.argument hv a ha) c
        refine (echoes_callTexts unnumbered body captured _).bind (overlooks.result hv _)
          fun w hw => ?_
        refine echoes_finish (fun w' same => ?_) fun hw => ih.value hw c
        cases w with
        | text s => cases same
        | _ =>
          cases same
          exact hw
      | custom label name captured =>
        have asks := overlooks.asks hv rfl ht c
        simp only [renderValue, ← overlooks.script hv rfl ht hu c]
        exact ((asks.run handlers).wrap _).bind_any fun answer => echoes_answered label answer
      | eachItem item index last key =>
        simp only [renderValue, Tag.isSection, ht, hu]
        exact Echoes.wrap (ih.value (overlooks.item hv) c) _
      | _ => cases hr
    · have plain : v.isRenderable = false := by simpa using hr
      rw [renderValue_leaf _ hi plain, renderValue_leaf _ hi plain]
      exact echoes_leaf unnumbered v
  · rw [renderValue_of_items _ hi, renderValue_of_items _ hi]
    refine Echoes.map (Echoes.eachItem fun w hw => ?_) joined
    exact ih.value (overlooks.items hv (Value.items?_of_joined hi) w hw) c

/-- Variable tags that escape alike insert the same for values that overlook them. -/
theorem echoed (unnumbered : e.host.Unnumbered) (overlooks : e.host.OverlooksTags p)
    (ht : t.form = .variableTag escaped) (hu : u.form = .variableTag escaped) (depth : Nat) :
    e.Echoed p t u depth := by
  induction depth with
  | zero => constructor <;> intros <;> exact Run.echoes_still .exhausted fun _ => rfl
  | succ depth ih =>
    refine ⟨fun {v} hv c => ?_, fun hv c => ih.succ_value unnumbered overlooks ht hu hv c⟩
    simp only [renderVariable]
    cases hi : v.items? with
    | some items =>
      refine Echoes.map (Echoes.eachItem fun w hw => ?_) String.join
      exact ih.variableTag (overlooks.items hv hi w hw) c
    | none =>
      have same (r : Rendering) : e.insert t r = e.insert u r := by
        simp only [insert, Tag.escaped, ht, hu]
      simp only [same]
      exact (ih.value hv c).map fun r => (e.insert u r).text

end Engine

end Stencil
