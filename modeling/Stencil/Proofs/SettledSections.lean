-- When no textual filter gets into a section. It is enough that the expressions of the sections
-- give values in which none waits: variable tags may call textual filters as they like, since what
-- a variable tag inserts never becomes a part of a context.
import Stencil.Proofs.Pieces
import Stencil.Proofs.Throughout

namespace Stencil

open Run (Gives)

/-- Whether a section inserts what a textual filter makes of texts. -/
def Piece.isFilteredSection : Piece → Bool
  | .inserted tag (.pending _ _ _) _ => tag.isSection
  | _ => false

/-- No textual filter was used but in variable tags. -/
def Piece.Unfiltered (ps : List Piece) : Prop := ∀ p ∈ ps, p.isFilteredSection = false

/-- The value is no textual filter that waits for its tag. -/
def Value.Settled : Value → Prop
  | .pending _ _ _ => False
  | _ => True

theorem Value.ordinary_settled : Ordinary Settled where
  missing := trivial
  null := trivial
  bool _ := trivial
  int _ := trivial
  text _ := trivial
  list _ := trivial
  mapping _ := trivial
  object _ _ := trivial
  eachItem _ _ _ _ := trivial

namespace Engine

variable {σ : Type} {e : Engine σ} {depth : Nat} {tag : Tag} {v : Value} {c : Context}

open Value (Settled)

/-- The expressions of all sections give values in which no textual filter waits. -/
def SettlesSections (e : Engine σ) (t : Template) : Prop :=
  ∀ head inverted children inner, .sectionTag head inverted children inner ∈ t.tags →
    ∀ c : Context, c.Throughout Settled →
      Gives (·.Throughout Settled) ((⟨e.host, e.policy⟩ : Evaluator σ).evaluate c head.expression)

theorem SettlesSections.children {t children : Template} {head : Head} {inverted : Bool}
    {inner : String} (h : e.SettlesSections t)
    (hn : .sectionTag head inverted children inner ∈ t) : e.SettlesSections children := by
  intro head' inverted' children' inner' hm
  refine h head' inverted' children' inner' (Node.tags_subset hn ?_)
  rw [Node.tags]
  exact List.mem_cons_of_mem _ hm

theorem SettlesSections.head {t children : Template} {head : Head} {inverted : Bool}
    {inner : String} (h : e.SettlesSections t)
    (hn : .sectionTag head inverted children inner ∈ t) (hc : c.Throughout Settled) :
    Gives (·.Throughout Settled)
      ((⟨e.host, e.policy⟩ : Evaluator σ).evaluate c head.expression) := by
  refine h head inverted children inner (Node.tags_subset hn ?_) c hc
  rw [Node.tags]
  exact List.mem_cons_self

theorem unfiltered_flatten {parts : List (List Piece)} (h : ∀ ps ∈ parts, Piece.Unfiltered ps) :
    Piece.Unfiltered parts.flatten := by
  intro p hp
  obtain ⟨ps, hps, hp⟩ := List.mem_flatten.1 hp
  exact h ps hps p hp

theorem unfiltered_singleton {p : Piece} (h : p.isFilteredSection = false) :
    Piece.Unfiltered [p] := by
  intro q hq
  obtain rfl := List.mem_singleton.1 hq
  exact h

/-- At one depth, no section inserts a textual filter if none waits in its value. -/
structure IsUnfiltered (e : Engine σ) (depth : Nat) : Prop where
  nodes : ∀ t c, e.SettlesSections t → c.Throughout Settled →
    Gives Piece.Unfiltered (e.pieces depth t c)
  variableTag : ∀ tag v c, tag.isSection = false →
    Gives Piece.Unfiltered (e.variablePieces depth tag v c)
  sectionTag : ∀ tag v c, e.SettlesSections tag.children → v.Throughout Settled →
    c.Throughout Settled → Gives Piece.Unfiltered (e.sectionPieces depth tag v c)
  item : ∀ tag v c, e.SettlesSections tag.children → v.Throughout Settled →
    c.Throughout Settled → Gives Piece.Unfiltered (e.itemPieces depth tag v c)
  held : ∀ tag item index last key c, e.SettlesSections tag.children → item.Throughout Settled →
    key.Throughout Settled → c.Throughout Settled →
    Gives Piece.Unfiltered (e.heldPieces depth tag item index last key c)

theorem IsUnfiltered.succ_nodes (ih : IsUnfiltered e depth) {t : Template}
    (ht : e.SettlesSections t) (hc : c.Throughout Settled) :
    Gives Piece.Unfiltered (e.pieces (depth + 1) t c) := by
  simp only [pieces]
  refine (Run.ends_each (P := Piece.Unfiltered) fun n hn => ?_).bind fun parts h =>
    Run.ends_pure (unfiltered_flatten h)
  cases n with
  | text s => exact Run.ends_pure (unfiltered_singleton rfl)
  | variableTag head escaped =>
    refine gives_visit (Run.gives_any _) fun tag v htag _ => ?_
    exact ih.variableTag tag v c (by simp only [Tag.isSection, htag])
  | sectionTag head inverted children inner =>
    refine gives_visit (ht.head hn hc) fun tag v htag hv => ?_
    refine ih.sectionTag tag v c ?_ hv hc
    simp only [Tag.children, htag]
    exact ht.children hn

theorem IsUnfiltered.succ_variableTag (ih : IsUnfiltered e depth) (ht : tag.isSection = false) :
    Gives Piece.Unfiltered (e.variablePieces (depth + 1) tag v c) := by
  simp only [variablePieces]
  cases v.items? with
  | some items =>
    refine (Run.gives_eachItem (P := Piece.Unfiltered) fun u _ => ?_).bind fun parts h =>
      Run.ends_pure (unfiltered_flatten h)
    exact ih.variableTag tag u c ht
  | none =>
    refine (Run.gives_any _).bind_any fun r => Run.ends_pure (unfiltered_singleton ?_)
    unfold Piece.isFilteredSection
    split
    · rename_i h
      cases h
      exact ht
    · rfl

theorem IsUnfiltered.succ_sectionTag (ih : IsUnfiltered e depth)
    (ht : e.SettlesSections tag.children) (hv : v.Throughout Settled) (hc : c.Throughout Settled) :
    Gives Piece.Unfiltered (e.sectionPieces (depth + 1) tag v c) := by
  have nothing : Gives Piece.Unfiltered (pure [] : Run σ (List Piece)) :=
    Run.ends_pure fun p hp => (nomatch hp)
  simp only [sectionPieces]
  split
  · refine (Run.gives_any _).bind_any fun truth => ?_
    split
    · exact nothing
    · exact ih.nodes _ c ht hc
  · cases hi : v.items? with
    | some items =>
      refine (Run.gives_eachItem (P := Piece.Unfiltered) fun u hu => ?_).bind fun parts h =>
        Run.ends_pure (unfiltered_flatten h)
      exact ih.item tag u c ht (hv.items Value.ordinary_settled hi hu) hc
    | none =>
      refine (Run.gives_any _).bind_any fun shown => ?_
      split
      · exact ih.item tag v c ht hv hc
      · exact nothing

theorem IsUnfiltered.succ_item (ih : IsUnfiltered e depth) (ht : e.SettlesSections tag.children)
    (hv : v.Throughout Settled) (hc : c.Throughout Settled) :
    Gives Piece.Unfiltered (e.itemPieces (depth + 1) tag v c) := by
  cases v with
  | eachItem item index last key =>
    simp only [itemPieces]
    exact ih.held tag item index last key c ht (hv.part (by simp [Value.parts]))
      (hv.part (by simp [Value.parts])) hc
  | pending body captured arguments => exact absurd hv.self id
  | _ =>
    simp only [itemPieces]
    split
    · exact (Run.gives_any _).bind_any fun r => Run.ends_pure (unfiltered_singleton rfl)
    · exact ih.nodes _ _ ht (hc.push hv)

theorem IsUnfiltered.succ_held (ih : IsUnfiltered e depth) {item key : Value} (index : Nat)
    (last : Bool) (ht : e.SettlesSections tag.children) (hitem : item.Throughout Settled)
    (hkey : key.Throughout Settled) (hc : c.Throughout Settled) :
    Gives Piece.Unfiltered (e.heldPieces (depth + 1) tag item index last key c) := by
  simp only [heldPieces]
  refine Run.gives_wrap (ih.nodes _ _ ht (Context.Throughout.push ?_ hitem))
  exact hc.push (Value.throughout_position Value.ordinary_settled hkey)

theorem isUnfiltered (e : Engine σ) (depth : Nat) : IsUnfiltered e depth := by
  induction depth with
  | zero => constructor <;> intros <;> exact Run.ends_exhaust
  | succ depth ih =>
    constructor
    · exact fun t c => ih.succ_nodes
    · exact fun tag v c => ih.succ_variableTag
    · exact fun tag v c => ih.succ_sectionTag
    · exact fun tag v c => ih.succ_item
    · exact fun tag item index last key c => ih.succ_held index last

/-- No section inserts a textual filter if no textual filter waits in the context, nor in what the
expressions of the sections give. -/
theorem unfiltered_of_settled (e : Engine σ) (depth : Nat) {t : Template} {c : Context}
    (sections : e.SettlesSections t) (context : c.Throughout Settled) :
    Gives Piece.Unfiltered (e.pieces depth t c) :=
  (isUnfiltered e depth).nodes t c sections context

end Engine

end Stencil
