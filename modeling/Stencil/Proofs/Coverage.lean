-- What becomes of the text of a source. Every character of an accepted source is in one text of the
-- tree or falls away with one tag, and what a section holds as source is the slice of the source
-- between its two tags.
import Mathlib
import Stencil.Proofs.Cuts

namespace Stencil

/-! ## Texts and tags of a tree -/

namespace Node

mutual

/-- The texts of a node in the order of the source. -/
def texts : Node → List String
  | .text content => [content]
  | .variableTag _ _ => []
  | .sectionTag _ _ children _ => textsList children

def textsList : List Node → List String
  | [] => []
  | n :: rest => n.texts ++ textsList rest

end

theorem textsList_append (a b : List Node) : textsList (a ++ b) = textsList a ++ textsList b := by
  induction a with
  | nil => rfl
  | cons n rest ih => rw [List.cons_append, textsList, textsList, ih, List.append_assoc]

theorem tagsList_append (a b : List Node) : tagsList (a ++ b) = tagsList a ++ tagsList b := by
  induction a with
  | nil => rfl
  | cons n rest ih => rw [List.cons_append, tagsList, tagsList, ih, List.append_assoc]

end Node

/-! ## Offsets -/

/-- The offsets at which the tags of a cut begin. -/
def Cut.offsets (start : Nat) (text : List Char) : List (RawTag × List Char) → List Nat
  | [] => []
  | (t, next) :: more =>
    (start + text.length) :: offsets (start + text.length + t.source.length) next more

/-- The offsets to which the source has been read in front of each token. -/
def Token.positions (start : Nat) : List Token → List Nat
  | [] => []
  | t :: ts => start :: positions (start + t.source.length) ts

theorem Cut.offsets_append (start : Nat) (a text : List Char) (tags : List (RawTag × List Char)) :
    offsets start (a ++ text) tags = offsets (start + a.length) text tags := by
  cases tags with
  | nil => rfl
  | cons t more => simp only [offsets, List.length_append, Nat.add_assoc]

/-- No tag begins in what has been read already. -/
theorem Token.positions_le_offsets (start : Nat) (tokens : List Token) (rest : List Char) :
    List.Forall₂ (· ≤ ·) (positions start tokens)
      (Cut.offsets start (cut tokens rest).text (cut tokens rest).tags) := by
  induction tokens generalizing start with
  | nil => exact .nil
  | cons t ts ih =>
    have next := ih (start + t.source.length)
    refine .cons (Nat.le_add_right _ _) ?_
    rw [Cut.offsets_append]
    have reached : start + (cut (t :: ts) rest).text.length + t.tag.source.length +
        t.trail.length = start + t.source.length := by
      simp only [cut, source, List.length_append]
      omega
    rw [reached]
    exact next

namespace Template

open Node (textsList tagsList)
open Token (sourceOf)

/-! ## Sections and their tokens -/

/-- The tokens of a section among those around it: its opening tag, its content and its closing
tag. -/
structure Enclosure (tokens : List Token) (head : Head) (inverted : Bool) (children : Template)
    (inner : String) (before : List Token) (opener : Token) (content : List Token)
    (closer : Token) (behind : List Token) : Prop where
  split : tokens = before ++ opener :: content ++ closer :: behind
  opens : opener.tag.Means (.opening head.expression inverted)
  place : opener.location = head.location
  closes : ∃ name, closer.tag.Means (.closing name) ∧ (name = none ∨ name = some head.expression)
  spells : Spells content closer.lead children
  source : inner.toList = sourceOf content closer.lead

variable {tokens before content behind : List Token} {rest : List Char} {nodes children : Template}
  {head : Head} {inverted : Bool} {inner : String} {opener closer : Token}

theorem Enclosure.within (h : Enclosure tokens head inverted children inner before opener content
    closer behind) (a b : List Token) :
    Enclosure (a ++ tokens ++ b) head inverted children inner (a ++ before) opener content closer
      (behind ++ b) := by
  refine { h with split := ?_ }
  rw [h.split]
  simp

theorem tagsList_textNodes (cs : List Char) : tagsList (textNodes cs) = [] := by
  unfold textNodes
  split
  · rfl
  · rfl

/-- Every section of a tree is enclosed by its tags. -/
theorem Spells.exists_enclosure (h : Spells tokens rest nodes)
    (hn : .sectionTag head inverted children inner ∈ tagsList nodes) :
    ∃ before opener content closer behind,
      Enclosure tokens head inverted children inner before opener content closer behind := by
  induction h with
  | nil =>
    rw [tagsList_textNodes] at hn
    cases hn
  | @variableTag t _ _ _ _ _ _ _ ih =>
    simp only [Node.tagsList_append, tagsList_textNodes, tagsList, Node.tags, List.nil_append,
      List.cons_append, List.mem_cons, reduceCtorEq, false_or] at hn
    obtain ⟨before, opener, content, closer, behind, found⟩ := ih hn
    exact ⟨_, _, _, _, _, by simpa using found.within [t] []⟩
  | @comment t _ _ _ _ _ ih =>
    simp only [Node.tagsList_append, tagsList_textNodes, List.nil_append] at hn
    obtain ⟨before, opener, content, closer, behind, found⟩ := ih hn
    exact ⟨_, _, _, _, _, by simpa using found.within [t] []⟩
  | @sectionTag opening closing content ts _ e _ name _ _ ho hc hname hcontent _ ihContent ih =>
    simp only [Node.tagsList_append, tagsList_textNodes, tagsList, Node.tags, List.nil_append,
      List.cons_append, List.mem_cons, List.mem_append] at hn
    rcases hn with same | hn | hn
    · cases same
      exact ⟨[], opening, content, closing, ts, rfl, ho, rfl, ⟨name, hc, hname⟩, hcontent, by simp⟩
    · obtain ⟨before, opener, content, closer, behind, found⟩ := ihContent hn
      exact ⟨_, _, _, _, _, by simpa using found.within [opening] (closing :: ts)⟩
    · obtain ⟨before, opener, inside, closer, behind, found⟩ := ih hn
      exact ⟨_, _, _, _, _, by simpa using found.within (opening :: content ++ [closing]) []⟩

/-! ## Texts and their tokens -/

theorem textsList_textNodes (cs : List Char) :
    textsList (textNodes cs) = ([cs].filter (· ≠ [])).map String.ofList := by
  unfold textNodes
  cases cs with
  | nil => rfl
  | cons c cs => rfl

/-- The texts of a tree are those between its tags. -/
theorem Spells.texts (h : Spells tokens rest nodes) :
    textsList nodes = ((tokens.map (·.lead) ++ [rest]).filter (· ≠ [])).map String.ofList := by
  induction h with
  | nil => exact textsList_textNodes _
  | variableTag _ _ ih | comment _ _ ih =>
    simp only [Node.textsList_append, textsList_textNodes, textsList, Node.texts, ih]
    simp [← List.map_append, ← List.filter_append]
  | sectionTag _ _ _ _ _ ihContent ih =>
    simp only [Node.textsList_append, textsList_textNodes, textsList, Node.texts, ih, ihContent]
    rw [← List.map_append, ← List.map_append, ← List.filter_append, ← List.filter_append]
    simp only [List.map_append, List.map_cons, List.cons_append, List.append_assoc,
      List.nil_append]

theorem Reads.text {template : Option String} (h : Reads template tokens rest nodes) {s : String}
    (hs : s ∈ textsList nodes) : s ≠ "" ∧ ¬ RawTag.opening false <:+: s.toList := by
  rw [h.spells.texts, List.mem_map] at hs
  obtain ⟨cs, hcs, rfl⟩ := hs
  obtain ⟨piece, nonempty⟩ := List.mem_filter.1 hcs
  refine ⟨by simpa using nonempty, ?_⟩
  rw [String.toList_ofList]
  rcases List.mem_append.1 piece with piece | piece
  · obtain ⟨t, ht, rfl⟩ := List.mem_map.1 piece
    exact (h.clean t ht).lead
  · obtain rfl := List.mem_singleton.1 piece
    exact h.ending

/-! ## The whole source -/

/-- How a source is taken apart into the texts of its tree and its tags. -/
structure Covers (template : Option String) (source : String) (t : Template) (tokens : List Token)
    (rest : List Char) : Prop where
  /-- The tags are the leftmost ones of the source. -/
  leftmost : Cut.Leftmost source.toList (Token.cut tokens rest)
  /-- A tag that only structures the template and stands alone takes its whole line, any other tag
  takes nothing. -/
  extended : Token.InPlace template [] tokens rest
  blanks : ∀ u ∈ tokens, u.TakesBlanks
  /-- Texts and tags with what falls away are consecutive and make up the source. -/
  whole : source.toList =
    tokens.flatMap (fun u => u.lead ++ (u.indent ++ u.tag.source ++ u.trail)) ++ rest
  /-- The texts of the tree are the texts that are not empty. -/
  texts : textsList t = ((tokens.map (·.lead) ++ [rest]).filter (· ≠ [])).map String.ofList
  clean : ∀ s ∈ textsList t, s ≠ "" ∧ ¬ RawTag.opening false <:+: s.toList
  /-- The source of a section is what its two tags, with what falls away, enclose. -/
  slices : ∀ head inverted children inner, .sectionTag head inverted children inner ∈ t.tags →
    ∃ before opener content closer behind,
      Enclosure tokens head inverted children inner before opener content closer behind ∧
      source.toList = sourceOf before opener.lead ++
        (opener.indent ++ opener.tag.source ++ opener.trail) ++ inner.toList ++
        (closer.indent ++ closer.tag.source ++ closer.trail) ++ sourceOf behind rest
  /-- No tag begins in front of the place to which the source has been read. -/
  forward : List.Forall₂ (· ≤ ·) (Token.positions 0 tokens)
    (Cut.offsets 0 (Token.cut tokens rest).text (Token.cut tokens rest).tags)

/-- Nothing of an accepted source is lost, and nothing is taken twice. -/
theorem covers_of_parse {template : Option String} {source : String} {t : Template}
    (ok : parse template source = .ok t) : ∃ tokens rest, Covers template source t tokens rest := by
  obtain ⟨tokens, rest, split, reads⟩ := parse_iff_reads.1 ok
  refine ⟨tokens, rest, split ▸ reads.leftmost, reads.inPlace, reads.inPlace.takesBlanks, ?_,
    reads.spells.texts, fun s hs => reads.text hs, ?_, Token.positions_le_offsets 0 tokens rest⟩
  · rw [split, sourceOf]
    congr 2
    funext u
    simp [Token.source]
  · intro head inverted children inner hn
    obtain ⟨before, opener, content, closer, behind, found⟩ := reads.spells.exists_enclosure hn
    refine ⟨before, opener, content, closer, behind, found, ?_⟩
    rw [split, found.split, found.source]
    simp [sourceOf, Token.source]

/-- A list with a note, its section on lines of their own. -/
def listPage : String :=
  "a\n  \x7b\x7b#s\x7d\x7d \n\x7b\x7bx\x7d\x7d, \x7b\x7b! note \x7d\x7d\n\x7b\x7b/s\x7d\x7d"

def listTree : Template := [
  .text "a\n", .sectionTag ⟨.name "s", ⟨2, 3, none⟩⟩ false
    [.variableTag ⟨.name "x", ⟨3, 1, none⟩⟩ true, .text ", ", .text "\n"]
    "\x7b\x7bx\x7d\x7d, \x7b\x7b! note \x7d\x7d\n"]

theorem covers_listPage : parse none listPage = .ok listTree ∧
    ∃ tokens rest, Covers none listPage listTree tokens rest := by
  have ok : parse none listPage = .ok listTree := by
    cbv
  exact ⟨ok, covers_of_parse ok⟩

end Template

end Stencil
