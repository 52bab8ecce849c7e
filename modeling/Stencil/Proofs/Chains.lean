-- Chains of textual filters. A filter around a filter around an expression keeps what it is given
-- until the tag is rendered; then the innermost value is rendered once, and its text goes through
-- the filters from the innermost one out, each of them once, before anything is escaped.
import Stencil.Proofs.TagStates

namespace Stencil

variable {σ : Type}

/-! ## Links -/

/-- A textual filter in a chain: the expression that is called, the filter that it stands for, and
the text that the function behind the filter makes of a passage. -/
structure Link (σ : Type) where
  callee : Expr
  body : Body TextFunction
  captured : List Value
  block : Passage → Outside σ → String × Outside σ

namespace Link

/-- In the context the expression gives the filter, and the function answers with plain text. -/
structure Works (e : Engine σ) (c : Context) (f : Link σ) : Prop where
  found : ∀ w, e.evaluator.evaluate c f.callee w = (.done (.filter (.textual f.body) f.captured), w)
  calls : ∀ p w, f.body.callTexts e.host f.captured [p] w =
    (.done (.text (f.block p w.outside).1), { w with outside := (f.block p w.outside).2 })

/-- The expression that calls the first filter on a call of the second one, and so on. -/
def chain (fs : List (Link σ)) (x : Expr) : Expr := fs.foldr (fun f a => .call f.callee a []) x

/-- The value of a chain: filters that wait, one around the other, for a value to be rendered. -/
def waiting (fs : List (Link σ)) (v : Value) : Value :=
  fs.foldr (fun f a => .pending f.body f.captured [a]) v

/-- What the functions make of a passage, the last one first. -/
def through : List (Link σ) → Passage → Outside σ → Passage × Outside σ
  | [], p, o => (p, o)
  | f :: fs, p, o =>
    let (q, o) := through fs p o
    let (s, o) := f.block q o
    (.plain s, o)

end Link

/-- A value as it is passed to a filter: what is missing is passed as null. -/
def Value.passed : Value → Value
  | .missing => .null
  | v => v

/-- The world with another outside. -/
def World.beyond (w : World σ) (o : Outside σ) : World σ := { w with outside := o }

namespace Engine

variable {e : Engine σ} {c : Context} {x : Expr} {w w₁ w₂ : World σ} {v : Value} {tag : Tag}
  {fs : List (Link σ)} {depth : Nat} {r : Rendering}

/-! ## The value of a chain -/

theorem resolve_eq_done : e.resolve tag c w = (.done v, w₁) ↔
    e.evaluator.evaluate c tag.head.expression w = (.done v, w₁) ∧
      (v.isMissing && decide (e.policy = .fail)) = false := by
  unfold resolve
  rw [Run.bind_eq_done]
  constructor
  · rintro ⟨u, w', evaluated, h⟩
    split at h
    · cases h
    · rename_i found
      cases h
      exact ⟨evaluated, by simpa using found⟩
  · rintro ⟨evaluated, found⟩
    refine ⟨v, w₁, evaluated, ?_⟩
    rw [found]
    rfl

/-- What an expression resolves to is passed to a filter that is called on it. -/
theorem evaluateArgument_of_resolve (h : e.resolve tag c w = (.done v, w₁)) :
    e.evaluator.evaluateArgument c tag.head.expression w = (.done v.passed, w₁) := by
  obtain ⟨evaluated, found⟩ := resolve_eq_done.1 h
  refine Run.bind_eq_done.2 ⟨v, w₁, evaluated, ?_⟩
  cases v with
  | missing =>
    cases policy : e.policy with
    | empty => simp [Evaluator.argument, Value.isMissing, policy, Value.passed]
    | fail => simp [Value.isMissing, policy] at found
  | _ => rfl

/-- A call of a textual filter keeps its argument; the function is not called. -/
theorem evaluate_link {f : Link σ} {a : Expr} (works : f.Works e c)
    (h : e.evaluator.evaluateArgument c a w = (.done v, w₁)) :
    e.evaluator.evaluate c (.call f.callee a []) w =
      (.done (.pending f.body f.captured [v]), w₁) := by
  have arguments : Run.each (e.evaluator.evaluateArgument c) [a] w = (.done [v], w₁) :=
    Run.bind_eq_done.2 ⟨v, w₁, h, rfl⟩
  rw [Evaluator.evaluate_call]
  refine Run.bind_eq_done.2 ⟨_, w, works.found w, ?_⟩
  exact Run.bind_eq_done.2 ⟨(.textual f.body, f.captured), w, rfl,
    Run.bind_eq_done.2 ⟨[v], w₁, arguments, rfl⟩⟩

theorem evaluateArgument_chain (works : ∀ f ∈ fs, f.Works e c)
    (h : e.evaluator.evaluateArgument c x w = (.done v, w₁)) :
    e.evaluator.evaluateArgument c (Link.chain fs x) w = (.done (Link.waiting fs v), w₁) := by
  induction fs with
  | nil => exact h
  | cons f fs ih =>
    have inner := ih fun g mem => works g (List.mem_cons_of_mem _ mem)
    exact Run.bind_eq_done.2 ⟨_, w₁, evaluate_link (works f List.mem_cons_self) inner, rfl⟩

/-- A chain resolves to its filters around the value of the expression, in the same world. -/
theorem resolve_chain {l : Location} {form : Form} (links : fs ≠ [])
    (works : ∀ f ∈ fs, f.Works e c)
    (h : e.resolve (w.newTag ⟨x, l⟩ form) c w.opened = (.done v, w₁)) :
    e.resolve (w.newTag ⟨Link.chain fs x, l⟩ form) c w.opened =
      (.done (Link.waiting fs v.passed), w₁) := by
  cases fs with
  | nil => exact absurd rfl links
  | cons f fs =>
    have inner := evaluateArgument_chain (fun g mem => works g (List.mem_cons_of_mem _ mem))
      (evaluateArgument_of_resolve h)
    exact resolve_eq_done.2 ⟨evaluate_link (works f List.mem_cons_self) inner, rfl⟩

theorem isRenderable_waiting (links : fs ≠ []) (v : Value) :
    (Link.waiting fs v).isRenderable = true := by
  cases fs with
  | nil => exact absurd rfl links
  | cons f fs => rfl

/-! ## The text of a chain -/

/-- Null is rendered as what is missing is. -/
theorem renderValue_passed (e : Engine σ) (depth : Nat) (tag : Tag) (v : Value) (c : Context) :
    e.renderValue depth tag v.passed c = e.renderValue depth tag v c := by
  cases v with
  | missing =>
    cases depth with
    | zero => rfl
    | succ depth =>
      rw [Value.passed, renderValue_leaf e rfl rfl, renderValue_leaf e rfl rfl]
      rfl
  | _ => rfl

/-- A filter that waits renders its argument as the tag would, calls its function once on the text
and keeps the safety of the argument. -/
theorem renderValue_link {f : Link σ} (works : f.Works e c)
    (h : (e.handlersAt depth tag).value v c w = (.done r, w₂)) :
    e.renderValue (depth + 1) tag (.pending f.body f.captured [v]) c w =
      (.done ⟨.plain (f.block r.text w₂.outside).1, r.safe⟩,
        w₂.beyond (f.block r.text w₂.outside).2) := by
  have texts : Run.each ((e.handlersAt depth tag).value · c) [v] w = (.done [r], w₂) :=
    Run.bind_eq_done.2 ⟨r, w₂, h, rfl⟩
  rw [renderValue]
  refine Run.onFailure_eq_done.2 (Run.bind_eq_done.2 ⟨[r], w₂, texts, ?_⟩)
  refine Run.bind_eq_done.2 ⟨_, _, works.calls r.text w₂, ?_⟩
  simp [transformed, finish, World.beyond]

/-- For a variable tag, a chain renders its innermost value once, and the text goes through the
functions. -/
theorem renderValue_waiting (plain : tag.isSection = false) (works : ∀ f ∈ fs, f.Works e c)
    (h : e.renderValue depth tag v c w = (.done r, w₂)) :
    e.renderValue (depth + fs.length) tag (Link.waiting fs v) c w =
      (.done ⟨(Link.through fs r.text w₂.outside).1, r.safe⟩,
        w₂.beyond (Link.through fs r.text w₂.outside).2) := by
  induction fs with
  | nil => exact h
  | cons f fs ih =>
    have inner := ih fun g mem => works g (List.mem_cons_of_mem _ mem)
    have asked : (e.handlersAt (depth + fs.length) tag).value (Link.waiting fs v) c =
        e.renderValue (depth + fs.length) tag (Link.waiting fs v) c := by
      show valueFor tag _ _ _ c = _
      rw [valueFor, plain]
      rfl
    exact renderValue_link (works f List.mem_cons_self) ((congrFun asked w).trans inner)

theorem items?_of_renderable (renderable : v.isRenderable = true) : v.items? = none := by
  cases v <;> first | rfl | cases renderable

end Engine

/-! ## Tags that differ in their expression -/

/-- No renderable tells a tag for the first expression from one for the second. -/
def Host.Overlooks (host : Host σ) (x y : Expr) : Prop :=
  ∀ name captured id l form c,
    host.script name captured ⟨id, ⟨x, l⟩, form⟩ c = host.script name captured ⟨id, ⟨y, l⟩, form⟩ c

namespace Engine

/-- At one depth, the engine renders alike for two tags. -/
structure RendersAlike (e : Engine σ) (t u : Tag) (depth : Nat) : Prop where
  sectionTag : e.renderSection depth t = e.renderSection depth u
  item : e.renderItem depth t = e.renderItem depth u
  value : e.renderValue depth t = e.renderValue depth u

variable {e : Engine σ} {x y : Expr} {id : Nat} {l : Location} {form : Form} {depth : Nat}

theorem RendersAlike.handlers (ih : e.RendersAlike ⟨id, ⟨x, l⟩, form⟩ ⟨id, ⟨y, l⟩, form⟩ depth) :
    e.handlersAt depth ⟨id, ⟨x, l⟩, form⟩ = e.handlersAt depth ⟨id, ⟨y, l⟩, form⟩ := by
  unfold handlersAt
  rw [ih.sectionTag, ih.value]
  rfl

theorem RendersAlike.succ_value (overlooks : e.host.Overlooks x y)
    (ih : e.RendersAlike ⟨id, ⟨x, l⟩, form⟩ ⟨id, ⟨y, l⟩, form⟩ depth) (v : Value) (c : Context) :
    e.renderValue (depth + 1) ⟨id, ⟨x, l⟩, form⟩ v c =
      e.renderValue (depth + 1) ⟨id, ⟨y, l⟩, form⟩ v c := by
  have handlers := ih.handlers
  unfold handlersAt at handlers
  rcases items : v.joinedItems? with _ | items
  · by_cases renderable : v.isRenderable = true
    · cases v with
      | eager text safe => simp only [renderValue]
      | deferred name captured =>
        simp only [renderValue]
        rw [handlers, overlooks name captured id l form c, ih.value]
      | pending body captured arguments =>
        simp only [renderValue]
        rw [handlers, ih.value]
      | custom label name captured =>
        simp only [renderValue]
        rw [handlers, overlooks name captured id l form c]
      | eachItem item index last key =>
        simp only [renderValue]
        rw [handlers, ih.value]
        rfl
      | _ => simp [Value.isRenderable] at renderable
    · have plain : v.isRenderable = false := by simpa using renderable
      rw [renderValue_leaf e items plain, renderValue_leaf e items plain]
  · rw [renderValue_of_items e items, renderValue_of_items e items, ih.value]

variable {c : Context} {w w₁ w₂ w' : World σ} {v : Value} {r : Rendering} {fs : List (Link σ)}

/-- What a variable tag inserts. -/
theorem text_insert_variable {tag : Tag} {escaped : Bool} (h : tag.form = .variableTag escaped)
    (r : Rendering) : (e.insert tag r).text =
      if r.safe || !escaped then r.text.text else (e.escape r.text).text := by
  simp only [insert, Tag.escaped, h]
  split <;> rfl

/-- A variable tag for a chain of textual filters. Resolving the chain does what resolving the
innermost expression does, and calls no function. Then the innermost value is rendered once, its
text goes through the functions, each of them once and the last one first, and what comes out is
escaped only in the end, unless the innermost rendering is safe or the tag does not escape. -/
theorem variable_chain_composes (e : Engine σ) {escaped : Bool} (links : fs ≠ [])
    (works : ∀ f ∈ fs, f.Works e c)
    (resolved : e.resolve (w.newTag ⟨x, l⟩ (.variableTag escaped)) c w.opened = (.done v, w₁))
    (rendered : e.renderValue depth (w.newTag ⟨Link.chain fs x, l⟩ (.variableTag escaped)) v c
      (w₁.readied (w.newTag ⟨Link.chain fs x, l⟩ (.variableTag escaped))) = (.done r, w₂)) :
    e.resolve (w.newTag ⟨Link.chain fs x, l⟩ (.variableTag escaped)) c w.opened =
      (.done (Link.waiting fs v.passed), w₁) ∧
    e.renderNode (depth + fs.length + 1) c (.variableTag ⟨Link.chain fs x, l⟩ escaped) w =
      (.done
        (if r.safe || !escaped then (Link.through fs r.text w₂.outside).1.text
          else (e.escape (Link.through fs r.text w₂.outside).1).text),
        (w₂.beyond (Link.through fs r.text w₂.outside).2).moved
          (w.newTag ⟨Link.chain fs x, l⟩ (.variableTag escaped)) .rendered) := by
  have chained := resolve_chain links works resolved
  refine ⟨chained, ?_⟩
  rw [← renderValue_passed] at rendered
  have text := renderValue_waiting rfl works rendered
  refine visit_eq_done.2 ⟨_, _, _, chained, ?_, rfl⟩
  show e.renderVariable _ _ _ c _ = _
  simp only [renderVariable, items?_of_renderable (isRenderable_waiting links v.passed)]
  refine Run.bind_eq_done.2 ⟨_, _, text, ?_⟩
  rw [Run.pure_apply, text_insert_variable rfl]

/-- An engine whose functions write their names around a text and into a log, and whose escaper
writes angles around a text. -/
def loggingEngine : Engine (List String) where
  host.call := fun function _ arguments o =>
    match arguments with
    | [.text s] =>
      (.ok (.text (function ++ "(" ++ s ++ ")")), { o with host := o.host ++ [function] })
    | [.markup s] =>
      (.ok (.text (function ++ "(" ++ s ++ ")")), { o with host := o.host ++ [function] })
    | _ => (.error (.host (.raised "ValueError" function)), o)
  host.script := fun _ _ _ _ => .done (.rendering ⟨.plain "", true⟩)
  policy := .empty
  escape := fun p => .plain ("<" ++ p.text ++ ">")

/-- The filter of a name as a link. -/
def loggingLink (name : String) : Link (List String) where
  callee := .name name
  body := .host name
  captured := []
  block p o := (name ++ "(" ++ p.text ++ ")", { o with host := o.host ++ [name] })

def loggingContext : Context := ⟨[⟨.mapping [(.text "x", .list [.text "a", .text "b"])],
  [("f", .filter (.textual (.host "f")) []), ("g", .filter (.textual (.host "g")) [])]⟩]⟩

theorem loggingLinks_work :
    ∀ f ∈ [loggingLink "f", loggingLink "g"], f.Works loggingEngine loggingContext := by
  have calls (name : String) (p : Passage) (w : World (List String)) :
      (Body.host name).callTexts loggingEngine.host [] [p] w =
        (.done (.text (name ++ "(" ++ p.text ++ ")")),
          { w with outside := { w.outside with host := w.outside.host ++ [name] } }) := by
    rcases p with ⟨s, _ | _⟩ <;> rfl
  intro f mem
  simp only [List.mem_cons, List.not_mem_nil, or_false] at mem
  rcases mem with rfl | rfl
  · exact ⟨fun _ => rfl, calls "f"⟩
  · exact ⟨fun _ => rfl, calls "g"⟩

theorem variable_chain_composes_logged :
    ∃ w', loggingEngine.renderNode 5 loggingContext (.variableTag
        ⟨Link.chain [loggingLink "f", loggingLink "g"] (.name "x"), ⟨1, 1, none⟩⟩ true)
        (World.start []) = (.done "<f(g(ab))>", w') ∧ w'.outside.host = ["g", "f"] := by
  let w := World.start ([] : List String)
  let tag := w.newTag ⟨Link.chain [loggingLink "f", loggingLink "g"] (.name "x"), ⟨1, 1, none⟩⟩
    (.variableTag true)
  have resolved : loggingEngine.resolve (w.newTag ⟨.name "x", ⟨1, 1, none⟩⟩ (.variableTag true))
      loggingContext w.opened = (.done (.list [.text "a", .text "b"]), w.opened) := rfl
  have rendered : loggingEngine.renderValue 2 tag (.list [.text "a", .text "b"]) loggingContext
      (w.opened.readied tag) = (.done ⟨.plain "ab", false⟩, w.opened.readied tag) := rfl
  obtain ⟨_, whole⟩ := variable_chain_composes loggingEngine (List.cons_ne_nil _ _)
    loggingLinks_work resolved rendered
  exact ⟨_, whole, rfl⟩

end Engine

end Stencil
