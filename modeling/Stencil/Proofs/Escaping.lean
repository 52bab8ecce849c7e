-- Everything is escaped at most once. The pieces of a rendering do not depend on the escaper, so
-- all that an escaper can change is how the pieces that are flagged are written. This is shown
-- for data that does not ask the engine for texts, and for textual filters in variable tags: in
-- a section, a textual filter takes the text of the section, which is escaped already.
import Stencil.Library.Standard
import Stencil.Proofs.Pieces
import Stencil.Proofs.Rendering
import Stencil.Proofs.SettledSections

namespace Stencil

namespace Run

variable {σ α β : Type} {P : β → Prop} {Q : α → Prop}

/-! ## Runs that follow others -/

/-- Whenever the first run ends with a value that satisfies `Q`, the second one ends with the same
value, in the same world. -/
def Follows (Q : α → Prop) (r s : Run σ α) : Prop :=
  ∀ w a w', r w = (.done a, w') → Q a → s w = (.done a, w')

theorem Follows.refl (r : Run σ α) : Follows Q r r := fun _ _ _ h _ => h

theorem follows_exhaust (s : Run σ α) : Follows Q exhaust s := by
  intro w a w' h _
  cases h

/-- Two steps follow if the first one does, and what comes out in the end tells enough of it. -/
theorem Follows.bind {r s : Run σ α} {f g : α → Run σ β} (h : Follows Q r s)
    (hf : ∀ a, Q a → Follows P (f a) (g a))
    (hQ : ∀ a w b w', f a w = (.done b, w') → P b → Q a) : Follows P (r >>= f) (s >>= g) := by
  intro w b w' hr hb
  obtain ⟨a, v, ha, hfa⟩ := bind_eq_done.1 hr
  have qa := hQ a v b w' hfa hb
  exact bind_eq_done.2 ⟨a, v, h w a v ha qa, hf a qa v b w' hfa hb⟩

/-- A first step that is the same in both, with what it is known to give. -/
theorem Follows.after {r : Run σ α} {f g : α → Run σ β} (h : Gives Q r)
    (hf : ∀ a, Q a → Follows P (f a) (g a)) : Follows P (r >>= f) (r >>= g) := by
  intro w b w' hr hb
  obtain ⟨a, v, ha, hfa⟩ := bind_eq_done.1 hr
  exact bind_eq_done.2 ⟨a, v, ha, hf a (h.done ha) v b w' hfa hb⟩

theorem Follows.map {r s : Run σ α} {f : α → β} (h : Follows Q r s) (hQ : ∀ a, P (f a) → Q a) :
    Follows P (r >>= fun a => pure (f a)) (s >>= fun a => pure (f a)) := by
  refine h.bind (fun a _ => .refl _) fun a w b w' hab hb => hQ a ?_
  obtain ⟨rfl, _⟩ := pure_eq_done.1 hab
  exact hb

theorem Follows.onFailure {r s : Run σ α} {h k : Failure → Run σ Failure} (hrs : Follows Q r s) :
    Follows Q (r.onFailure h) (s.onFailure k) := by
  intro w a w' hr ha
  exact onFailure_eq_done.2 (hrs w a w' (onFailure_eq_done.1 hr) ha)

theorem Follows.wrap {r s : Run σ α} {cause cause' : HostError → Cause} (h : Follows Q r s) :
    Follows Q (r.wrap cause) (s.wrap cause') := h.onFailure

theorem Follows.cons {r s : Run σ β} {r' s' : Run σ (List β)} (h : Follows P r s)
    (h' : Follows (fun bs => ∀ b ∈ bs, P b) r' s') :
    Follows (fun bs => ∀ b ∈ bs, P b) (r >>= fun b => r' >>= fun bs => pure (b :: bs))
      (s >>= fun b => s' >>= fun bs => pure (b :: bs)) := by
  refine h.bind (fun b _ => h'.map fun bs hbs => ?_) ?_
  · exact fun b hb => hbs b (List.mem_cons_of_mem _ hb)
  · intro b w bs w' hbs hP
    obtain ⟨rest, v, _, hv⟩ := bind_eq_done.1 hbs
    obtain ⟨rfl, _⟩ := pure_eq_done.1 hv
    exact hP b List.mem_cons_self

theorem Follows.each {f g : α → Run σ β} {l : List α} (h : ∀ a ∈ l, Follows P (f a) (g a)) :
    Follows (fun bs => ∀ b ∈ bs, P b) (Run.each f l) (Run.each g l) := by
  induction l with
  | nil => exact .refl _
  | cons a rest ih =>
    exact (h a List.mem_cons_self).cons (ih fun a ha => h a (List.mem_cons_of_mem _ ha))

theorem Follows.drain {f g : Value → Run σ β} {id : Nat} {items : List Value}
    {ending : Option Failure} (h : ∀ v ∈ items, Follows P (f v) (g v)) (bound : Nat) :
    Follows (fun bs => ∀ b ∈ bs, P b) (Run.drain f id items ending bound)
      (Run.drain g id items ending bound) := by
  induction bound with
  | zero => exact .refl _
  | succ bound ih =>
    refine Follows.after (ends_pull id items ending) fun next hnext => ?_
    cases hnext with
    | item mem => exact (h _ mem).cons ih
    | raised ends => exact .refl _
    | ended => exact .refl _

theorem Follows.eachItem {f g : Value → Run σ β} {items : Items}
    (h : ∀ v ∈ items.values, Follows P (f v) (g v)) :
    Follows (fun bs => ∀ b ∈ bs, P b) (Run.eachItem f items) (Run.eachItem g items) := by
  cases items with
  | fixed items => exact Follows.each h
  | stream id items ending => exact Follows.drain h _

end Run

/-! ## Values that do not ask for texts -/

namespace Value

/-- The value is rendered without a script, which could ask the engine for escaped text. -/
def Quiet : Value → Prop
  | .deferred _ _ | .custom _ _ _ => False
  | _ => True

theorem ordinary_quiet : Ordinary Quiet where
  missing := trivial
  null := trivial
  bool _ := trivial
  int _ := trivial
  text _ := trivial
  list _ := trivial
  mapping _ := trivial
  object _ _ := trivial
  eachItem _ _ _ _ := trivial

theorem keepsPending_quiet : KeepsPending Quiet := fun _ _ _ _ => trivial

end Value

variable {σ : Type}

/-- Textual filters give quiet values if the functions of the host do. -/
theorem Body.gives_callTexts {host : Host σ} (hh : host.Keeps Value.Quiet)
    {body : Body TextFunction} {captured : List Value}
    (hcaptured : ∀ u ∈ captured, u.Throughout Value.Quiet) (texts : List Passage) :
    Run.Gives (·.Throughout Value.Quiet) (body.callTexts host captured texts) := by
  cases body with
  | library f =>
    exact Run.gives_wrap (Run.ends_ofExcept (fun u hu =>
      TextFunction.throughout_call Value.ordinary_quiet (fun _ => trivial) hu) fun _ _ => trivial)
  | host name =>
    have filter : (Value.filter (.textual (.host name)) captured).Throughout Value.Quiet :=
      ⟨trivial, hcaptured⟩
    refine Run.gives_wrap (hh.run filter rfl fun u hu => ?_)
    obtain ⟨p, _, rfl⟩ := List.mem_map.1 hu
    exact Value.throughout_ofPassage Value.ordinary_quiet (fun _ => trivial) p

/-! ## Another escaper -/

namespace Engine

/-- The engine with another escaper. -/
def withEscape (e : Engine σ) (escape : Passage → Passage) : Engine σ := { e with escape }

variable {e : Engine σ} {escape : Passage → Passage} {depth : Nat} {tag : Tag} {v : Value}
  {c : Context}

open Run (Follows Gives)
open Value (Quiet)

theorem follows_visit {α : Type} {Q : α → Prop} (hh : e.host.Keeps Quiet) (hc : c.Throughout Quiet)
    (head : Head) (form : Form) {f g : Tag → Value → Run σ α}
    (h : ∀ tag v, tag.form = form → v.Throughout Quiet → Follows Q (f tag v) (g tag v)) :
    Follows Q (e.visit head form c f) ((e.withEscape escape).visit head form c g) := by
  have quiet : ∀ x, Gives (·.Throughout Quiet)
      ((⟨e.host, e.policy⟩ : Evaluator σ).evaluate c x) :=
    Evaluator.gives_evaluate Value.ordinary_quiet Value.keepsPending_quiet hh hc
  unfold visit
  refine Follows.after (gives_create head form) fun tag htag => Follows.onFailure ?_
  refine Follows.after (Run.gives_any _) fun _ _ => ?_
  refine Follows.after (gives_resolve tag (quiet _)) fun v hv => ?_
  refine Follows.after (Run.gives_any _) fun _ _ => ?_
  refine Follows.after (Run.gives_any _) fun _ _ => ?_
  refine (h tag v htag.2 hv).bind (fun a _ => .refl _) fun a w b w' hab hb => ?_
  obtain ⟨_, _, _, hv⟩ := Run.bind_eq_done.1 hab
  obtain ⟨rfl, _⟩ := Run.pure_eq_done.1 hv
  exact hb

/-- At one depth, what the engine gives without textual filters in sections, it gives with another
escaper too. In variable tags, values are rendered alike. -/
structure Repeats (e : Engine σ) (escape : Passage → Passage) (depth : Nat) : Prop where
  nodes : ∀ t c, c.Throughout Quiet →
    Follows Piece.Unfiltered (e.pieces depth t c) ((e.withEscape escape).pieces depth t c)
  variableTag : ∀ tag v c, tag.isSection = false → v.Throughout Quiet → c.Throughout Quiet →
    Follows Piece.Unfiltered (e.variablePieces depth tag v c)
      ((e.withEscape escape).variablePieces depth tag v c)
  sectionTag : ∀ tag v c, tag.isSection = true → v.Throughout Quiet → c.Throughout Quiet →
    Follows Piece.Unfiltered (e.sectionPieces depth tag v c)
      ((e.withEscape escape).sectionPieces depth tag v c)
  item : ∀ tag v c, tag.isSection = true → v.Throughout Quiet → c.Throughout Quiet →
    Follows Piece.Unfiltered (e.itemPieces depth tag v c)
      ((e.withEscape escape).itemPieces depth tag v c)
  held : ∀ tag item index last key c, item.Throughout Quiet → key.Throughout Quiet →
    c.Throughout Quiet →
    Follows Piece.Unfiltered (e.heldPieces depth tag item index last key c)
      ((e.withEscape escape).heldPieces depth tag item index last key c)
  value : ∀ tag v c, tag.isSection = false → v.Throughout Quiet → c.Throughout Quiet →
    Follows (fun _ => True) (e.renderValue depth tag v c)
      ((e.withEscape escape).renderValue depth tag v c)

theorem unfiltered_of_flatten {parts : List (List Piece)} (h : Piece.Unfiltered parts.flatten) :
    ∀ ps ∈ parts, Piece.Unfiltered ps :=
  fun ps hps p hp => h p (List.mem_flatten.2 ⟨ps, hps, hp⟩)

/-- In a variable tag the escaper is never asked for the rendering of a value. -/
theorem Repeats.succ_value (hh : e.host.Keeps Quiet) (ih : Repeats e escape depth)
    (ht : tag.isSection = false) (hv : v.Throughout Quiet) (hc : c.Throughout Quiet) :
    Follows (fun _ => True) (e.renderValue (depth + 1) tag v c)
      ((e.withEscape escape).renderValue (depth + 1) tag v c) := by
  rcases hi : v.joinedItems? with _ | items
  · by_cases hr : v.isRenderable = true
    · cases v with
      | eager s safe =>
        simp only [renderValue]
        exact .refl _
      | pending body captured arguments =>
        have hcaptured : ∀ u ∈ captured, u.Throughout Quiet :=
          fun u hu => hv.part (List.mem_append_left _ hu)
        have harguments : ∀ u ∈ arguments, u.Throughout Quiet :=
          fun u hu => hv.part (List.mem_append_right _ hu)
        simp only [renderValue, handlers, valueFor, ht]
        have rendered := Follows.each fun u hu => ih.value tag u c ht (harguments u hu) hc
        refine (rendered.bind (fun rs _ => ?_) ?_).wrap
        · refine Follows.after (Body.gives_callTexts hh hcaptured _) fun u hu => ?_
          cases u with
          | text s =>
            simp only [transformed, finish]
            exact .refl _
          | _ => exact ih.value tag _ c ht hu hc
        · exact fun _ _ _ _ _ _ _ _ => trivial
      | eachItem item index last key =>
        simp only [renderValue, ht]
        exact (ih.value tag item c ht (hv.part (by simp [Value.parts])) hc).wrap
      | deferred _ _ | custom _ _ _ => exact absurd hv.self id
      | _ => simp [Value.isRenderable] at hr
    · rw [renderValue_leaf _ hi (by simpa using hr), renderValue_leaf _ hi (by simpa using hr)]
      exact .refl _
  · rw [renderValue_of_items _ hi, renderValue_of_items _ hi]
    have rendered := Follows.eachItem fun u hu =>
      ih.value tag u c ht (hv.items Value.ordinary_quiet (Value.items?_of_joined hi) hu) hc
    exact rendered.map fun _ _ _ _ => trivial

/-- A renderable that a section inserts as one piece is known beforehand, unless it is a textual
filter. -/
theorem Repeats.inserted (ht : tag.isSection = true) (hv : v.Throughout Quiet)
    (hr : v.isRenderable = true) (hne : ∀ item index last key, v ≠ .eachItem item index last key) :
    Follows Piece.Unfiltered (e.renderValue depth tag v c >>= fun r => pure [.inserted tag v r])
      ((e.withEscape escape).renderValue depth tag v c >>= fun r => pure [.inserted tag v r]) := by
  cases v with
  | eager s safe =>
    cases depth with
    | zero => exact .refl _
    | succ depth =>
      simp only [renderValue]
      exact .refl _
  | pending body captured arguments =>
    -- A run that ends here gives a piece that is left out.
    intro w ps w' hps unfiltered
    obtain ⟨r, _, _, hr⟩ := Run.bind_eq_done.1 hps
    obtain ⟨rfl, _⟩ := Run.pure_eq_done.1 hr
    have inserts : tag.isSection = false := unfiltered _ List.mem_cons_self
    rw [ht] at inserts
    cases inserts
  | eachItem item index last key => exact absurd rfl (hne item index last key)
  | deferred _ _ | custom _ _ _ => exact absurd hv.self id
  | _ => simp [Value.isRenderable] at hr

theorem Repeats.succ_nodes (hh : e.host.Keeps Quiet) (ih : Repeats e escape depth) (t : Template)
    (hc : c.Throughout Quiet) :
    Follows Piece.Unfiltered (e.pieces (depth + 1) t c)
      ((e.withEscape escape).pieces (depth + 1) t c) := by
  simp only [pieces]
  refine (Follows.each fun n hn => ?_).map fun _ => unfiltered_of_flatten
  cases n with
  | text s => exact .refl _
  | variableTag head escaped =>
    refine follows_visit hh hc _ _ fun tag v htag hv => ?_
    exact ih.variableTag tag v c (by simp only [Tag.isSection, htag]) hv hc
  | sectionTag head inverted children inner =>
    refine follows_visit hh hc _ _ fun tag v htag hv => ?_
    exact ih.sectionTag tag v c (by simp only [Tag.isSection, htag]) hv hc

theorem Repeats.succ_variableTag (ih : Repeats e escape depth) (ht : tag.isSection = false)
    (hv : v.Throughout Quiet) (hc : c.Throughout Quiet) :
    Follows Piece.Unfiltered (e.variablePieces (depth + 1) tag v c)
      ((e.withEscape escape).variablePieces (depth + 1) tag v c) := by
  simp only [variablePieces]
  cases hi : v.items? with
  | some items =>
    refine (Follows.eachItem fun u hu => ?_).map fun _ => unfiltered_of_flatten
    exact ih.variableTag tag u c ht (hv.items Value.ordinary_quiet hi hu) hc
  | none => exact (ih.value tag v c ht hv hc).map fun _ _ => trivial

theorem Repeats.succ_sectionTag (ih : Repeats e escape depth) (ht : tag.isSection = true)
    (hv : v.Throughout Quiet) (hc : c.Throughout Quiet) :
    Follows Piece.Unfiltered (e.sectionPieces (depth + 1) tag v c)
      ((e.withEscape escape).sectionPieces (depth + 1) tag v c) := by
  simp only [sectionPieces]
  split
  · refine Follows.after (Run.gives_any _) fun truth _ => ?_
    split
    · exact .refl _
    · exact ih.nodes _ c hc
  · cases hi : v.items? with
    | some items =>
      refine (Follows.eachItem fun u hu => ?_).map fun _ => unfiltered_of_flatten
      exact ih.item tag u c ht (hv.items Value.ordinary_quiet hi hu) hc
    | none =>
      refine Follows.after (Run.gives_any _) fun shown _ => ?_
      split
      · exact ih.item tag v c ht hv hc
      · exact .refl _

theorem Repeats.succ_item (ih : Repeats e escape depth) (ht : tag.isSection = true)
    (hv : v.Throughout Quiet) (hc : c.Throughout Quiet) :
    Follows Piece.Unfiltered (e.itemPieces (depth + 1) tag v c)
      ((e.withEscape escape).itemPieces (depth + 1) tag v c) := by
  cases v with
  | eachItem item index last key =>
    simp only [itemPieces]
    exact ih.held tag item index last key c (hv.part (by simp [Value.parts]))
      (hv.part (by simp [Value.parts])) hc
  | _ =>
    simp only [itemPieces]
    split
    · exact Repeats.inserted ht hv (by assumption) (by simp)
    · exact ih.nodes _ _ (hc.push hv)

theorem Repeats.succ_held (ih : Repeats e escape depth) {item key : Value} (index : Nat)
    (last : Bool) (hitem : item.Throughout Quiet) (hkey : key.Throughout Quiet)
    (hc : c.Throughout Quiet) :
    Follows Piece.Unfiltered (e.heldPieces (depth + 1) tag item index last key c)
      ((e.withEscape escape).heldPieces (depth + 1) tag item index last key c) := by
  simp only [heldPieces]
  refine (ih.nodes _ _ (Context.Throughout.push ?_ hitem)).wrap
  exact hc.push (Value.throughout_position Value.ordinary_quiet hkey)

theorem repeats (hh : e.host.Keeps Quiet) (escape : Passage → Passage) (depth : Nat) :
    Repeats e escape depth := by
  induction depth with
  | zero => constructor <;> intros <;> exact Run.follows_exhaust _
  | succ depth ih =>
    constructor
    · exact fun t c => ih.succ_nodes hh t
    · exact fun tag v c => ih.succ_variableTag
    · exact fun tag v c => ih.succ_sectionTag
    · exact fun tag v c => ih.succ_item
    · exact fun tag item index last key c => ih.succ_held index last
    · exact fun tag v c => ih.succ_value hh

/-- Everything is escaped at most once. If a template is rendered in a context of quiet values, and
its sections insert no textual filter, then its pieces are the same for every escaper: the text is
what they are written as, and a piece is escaped exactly if it is an unsafe rendering that a tag
which escapes inserts. This holds at every depth, so for `render` too. -/
theorem pieces_same_for_every_escaper (e : Engine σ) (depth : Nat) (t : Template) (c : Context)
    (quiet : e.host.Keeps Quiet) (quietContext : c.Throughout Quiet) {w w' : World σ} {s : String}
    (rendered : e.renderNodes depth t c w = (.done s, w'))
    (unfiltered : ∀ ps w'', e.pieces depth t c w = (.done ps, w'') → Piece.Unfiltered ps) :
    ∃ ps, ∀ escape,
      (e.withEscape escape).pieces depth t c w = (.done ps, w') ∧
      (e.withEscape escape).renderNodes depth t c w =
        (.done (String.join (ps.map fun p =>
          if p.flag then (escape p.text).text else p.text.text)), w') ∧
      ∀ p ∈ ps, p.flag = true ↔
        ∃ tag v r, p = .inserted tag v r ∧ tag.escaped = true ∧ r.safe = false := by
  rw [renderNodes_eq_pieces, map_eq_pure_bind] at rendered
  obtain ⟨ps, v, hps, hs⟩ := Run.bind_eq_done.1 rendered
  obtain ⟨_, rfl⟩ := Run.pure_eq_done.1 hs
  refine ⟨ps, fun escape => ?_⟩
  have same := (repeats quiet escape depth).nodes t c quietContext w ps v hps (unfiltered ps v hps)
  refine ⟨same, ?_, fun p _ => ?_⟩
  · rw [renderNodes_eq_pieces, map_eq_pure_bind]
    exact Run.bind_eq_done.2 ⟨ps, v, same, rfl⟩
  · exact p.flag_iff

/-- A warning as a section of its own, and a name in capital letters. -/
def warningPage : Template := [
  .text "<p>", .sectionTag ⟨.name "warning", ⟨1, 4, none⟩⟩ false [] "",
  .variableTag ⟨.call (.name "uppercase") (.name "name") [], ⟨1, 27, none⟩⟩ true]

def warningContext : Context :=
  ⟨[⟨.mapping [(.text "warning", .eager "a < b" false), (.text "name", .markup "c")],
    [("uppercase", Library.ofText .upper)]⟩]⟩

theorem throughout_warningContext {p : Value → Prop} (hp : Value.Ordinary p)
    (eager : p (.eager "a < b" false)) (markup : p (.markup "c"))
    (filter : p (Library.ofText .upper)) : warningContext.Throughout p := by
  have text (s : String) : (Value.text s).Throughout p := .simple (hp.text s) rfl
  intro s hs
  obtain rfl := List.mem_singleton.1 hs
  refine ⟨.mapping hp fun e he => ?_, fun f hf => ?_⟩
  · simp only [List.mem_cons, List.not_mem_nil, or_false] at he
    rcases he with rfl | rfl
    · exact ⟨text _, .simple eager rfl⟩
    · exact ⟨text _, .simple markup rfl⟩
  · obtain rfl := List.mem_singleton.1 hf
    exact .simple filter rfl

/-- The only section of the page reads a name. -/
theorem settles_warningPage (e : Engine σ) : e.SettlesSections warningPage := by
  intro head inverted children inner mem c settled
  have section_ : Node.sectionTag head inverted children inner =
      .sectionTag ⟨.name "warning", ⟨1, 4, none⟩⟩ false [] "" := by
    simpa [warningPage, Template.tags, Node.tags, Node.tagsList] using mem
  cases section_
  simp only [Evaluator.evaluate]
  exact Run.ends_ofExcept (fun v hv => settled.lookup Value.ordinary_settled hv) fun _ _ => trivial

theorem pieces_same_of_warningPage : ∃ s w' ps, ∀ escape,
    let e : Engine Unit := ⟨Host.none, .fail, ContentType.html.escape⟩
    e.renderNodes 9 warningPage warningContext (World.start ()) = (.done s, w') ∧
    (e.withEscape escape).pieces 9 warningPage warningContext (World.start ()) = (.done ps, w') ∧
    (e.withEscape escape).renderNodes 9 warningPage warningContext (World.start ()) =
      (.done (String.join (ps.map fun p =>
        if p.flag then (escape p.text).text else p.text.text)), w') := by
  have keeps : Host.none.Keeps Quiet := by
    intro f name captured arguments o v o' _ _ _ h
    cases h
  have settled : warningContext.Throughout Value.Settled :=
    throughout_warningContext Value.ordinary_settled trivial trivial trivial
  let e : Engine Unit := ⟨Host.none, .fail, ContentType.html.escape⟩
  have rendered : e.renderNodes 9 warningPage warningContext (World.start ()) =
      (.done "<p>a &lt; bC", _) := rfl
  obtain ⟨ps, h⟩ := pieces_same_for_every_escaper e 9 warningPage warningContext keeps
    (throughout_warningContext Value.ordinary_quiet trivial trivial trivial) rendered fun ps w'' =>
      (unfiltered_of_settled e 9 (settles_warningPage e) settled).done
  exact ⟨_, _, ps, fun escape => ⟨rendered, (h escape).1, (h escape).2.1⟩⟩

end Engine

end Stencil
