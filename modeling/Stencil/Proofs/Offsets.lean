-- Where the places of a template lead. A place says how many lines begin in front of an offset of
-- the source and how many characters stand on the last of them. Every tag of a tree and every
-- rejection has the place of an offset at which braces open, and in a tree these offsets ascend.
import Stencil.Proofs.Coverage
import Stencil.Proofs.Places

namespace Stencil

open Text (lastLine)

/-! ## Places of offsets -/

namespace Location

/-- The place behind a text, counted: the ends of lines in it, and the characters on the line that
it has begun. -/
def counted (template : Option String) (before : List Char) : Location :=
  ⟨before.count '\n' + 1, (lastLine before).length + 1, template⟩

theorem next_counted (template : Option String) (before : List Char) (c : Char) :
    (counted template before).next c = counted template (before ++ [c]) := by
  by_cases h : c = '\n'
  · have line : lastLine (before ++ [c]) = [] := by
      rw [h, Text.lastLine_append_of_mem _ List.mem_cons_self]
      rfl
    rw [next, if_pos h, counted, counted, line, h, List.count_append]
    rfl
  · have other : '\n' ∉ [c] := by
      rw [List.mem_singleton]
      exact fun same => h same.symm
    rw [next, if_neg h, counted, counted, Text.lastLine_append_of_not_mem _ other,
      List.count_append, List.count_eq_zero_of_not_mem other, List.length_append]
    rfl

/-- The places that are reached character by character are the counted ones. -/
theorem after_counted (template : Option String) (before text : List Char) :
    (counted template before).after text = counted template (before ++ text) := by
  induction text generalizing before with
  | nil => rw [after_nil, List.append_nil]
  | cons c cs ih => rw [after_cons, next_counted, ih, List.append_assoc, List.singleton_append]

theorem after_start (template : Option String) (before : List Char) :
    (start template).after before = counted template before := after_counted template [] before

/-- The place is further up, or further left on the same line. -/
def Before (l m : Location) : Prop := l.line < m.line ∨ l.line = m.line ∧ l.column < m.column

/-- The places of a source ascend with the offsets. -/
theorem counted_before (template : Option String) (before : List Char) {text : List Char}
    (some : text ≠ []) : (counted template before).Before (counted template (before ++ text)) := by
  by_cases h : '\n' ∈ text
  · have lines := List.count_pos_iff.2 h
    refine .inl ?_
    simp only [counted, List.count_append]
    omega
  · have length := List.length_pos_iff.2 some
    refine .inr ⟨?_, ?_⟩
    · simp only [counted, List.count_append, List.count_eq_zero_of_not_mem h, Nat.add_zero]
    · simp only [counted, Text.lastLine_append_of_not_mem _ h, List.length_append]
      omega

/-- Braces open in the source at the offset with this place. -/
def Opens (template : Option String) (source : String) (l : Location) : Prop :=
  ∃ before behind, source.toList = before ++ RawTag.opening false ++ behind ∧
    l = counted template before

end Location

open Location (counted)

/-! ## Tokens -/

namespace Token

variable {template : Option String} {before rest : List Char} {tokens : List Token}

theorem source_split (t : Token) (behind : List Char) : ∃ more,
    t.source ++ behind = t.lead ++ t.indent ++ RawTag.opening false ++ more := by
  obtain ⟨more, split⟩ := t.tag.opening_prefix_source
  refine ⟨more ++ t.trail ++ behind, ?_⟩
  rw [source, ← split]
  simp only [List.append_assoc]

/-- Every token in place has the place of the braces that open its tag. -/
theorem InPlace.opens (h : InPlace template before tokens rest) : ∀ t ∈ tokens,
    ∃ front behind, sourceOf tokens rest = front ++ RawTag.opening false ++ behind ∧
      t.location = counted template (before ++ front) := by
  induction h with
  | nil => simp
  | @cons before rest t ts _ location _ ih =>
    have whole : sourceOf (t :: ts) rest = t.source ++ sourceOf ts rest := by
      rw [sourceOf, List.flatMap_cons, List.append_assoc, sourceOf]
    rw [whole]
    refine List.forall_mem_cons.2 ⟨?_, fun u hu => ?_⟩
    · obtain ⟨more, split⟩ := t.source_split (sourceOf ts rest)
      refine ⟨t.lead ++ t.indent, more, split, ?_⟩
      rw [location, Location.after_start, List.append_assoc]
    · obtain ⟨front, behind, split, place⟩ := ih u hu
      refine ⟨t.source ++ front, behind, ?_, ?_⟩
      · rw [split]
        simp only [List.append_assoc]
      · rw [place, List.append_assoc]

/-- Tokens in place stand one behind the other. -/
theorem InPlace.ascend (h : InPlace template before tokens rest) :
    tokens.Pairwise (·.location.Before ·.location) := by
  induction h with
  | nil => exact .nil
  | @cons before rest t ts _ location inPlace ih =>
    refine .cons (fun u hu => ?_) ih
    obtain ⟨front, _, _, place⟩ := inPlace.opens u hu
    have reached : before ++ t.source ++ front =
        before ++ t.lead ++ t.indent ++ (t.tag.source ++ t.trail ++ front) := by
      simp only [source, List.append_assoc]
    have some : t.tag.source ++ t.trail ++ front ≠ [] := by
      cases ht : t.tag.triple <;> simp [RawTag.source, RawTag.opening, ht]
    rw [location, Location.after_start, place, reached]
    exact Location.counted_before template _ some

theorem placeBehind_eq (template : Option String) (tokens : List Token) :
    Template.placeBehind template tokens = counted template (tokens.flatMap source) := by
  have folded (before : List Char) : tokens.foldl (fun l t => l.after t.source)
      (counted template before) = counted template (before ++ tokens.flatMap source) := by
    induction tokens generalizing before with
    | nil => rw [List.foldl_nil, List.flatMap_nil, List.append_nil]
    | cons t ts ih =>
      rw [List.foldl_cons, Location.after_counted, ih, List.flatMap_cons, List.append_assoc]
  exact folded []

/-- The tokens of a source have the places of opening braces. -/
theorem opens_of_scan {source : String} (scanned : scan template source.toList = (tokens, rest)) :
    ∀ t ∈ tokens, t.location.Opens template source := by
  obtain ⟨leftmost, inPlace⟩ := scan_eq_iff.1 scanned
  have whole : sourceOf tokens rest = source.toList := by
    rw [← source_cut, leftmost.source_eq]
  intro t ht
  obtain ⟨front, behind, split, place⟩ := inPlace.opens t ht
  exact ⟨front, behind, whole.symm.trans split, place⟩

end Token

namespace Template

variable {template : Option String} {source : String}

/-! ## Trees -/

theorem heads_append (a b : Template) : heads (a ++ b) = a.heads ++ b.heads := by
  rw [heads, tags, Node.tagsList_append, List.filterMap_append]
  rfl

theorem heads_textNodes (cs : List Char) : heads (textNodes cs) = [] := by
  rw [heads, tags, tagsList_textNodes]
  rfl

/-- The tags of a tree are where tokens that spell it are, in the same order; only closing tags and
comments have no tag in the tree. -/
theorem Spells.places_sublist {tokens : List Token} {rest : List Char} {t : Template}
    (h : Spells tokens rest t) : (t.heads.map (·.location)).Sublist (tokens.map (·.location)) := by
  induction h with
  | nil =>
    rw [heads_textNodes]
    exact .slnil
  | variableTag _ _ ih =>
    rw [heads_append, heads_textNodes]
    exact ih.cons_cons _
  | comment _ _ ih =>
    rw [heads_append, heads_textNodes]
    exact ih.cons _
  | @sectionTag opener closer inner ts _ e inverted _ children nodes _ _ _ _ _ ihContent ih =>
    have heads (inner : String) :
        heads (.sectionTag ⟨e, opener.location⟩ inverted children inner :: nodes) =
        ⟨e, opener.location⟩ :: heads children ++ heads nodes := by
      simp only [Template.heads, tags, Node.tagsList, Node.tags, List.filterMap_append,
        List.filterMap_cons, Node.head?]
    rw [heads_append, heads_textNodes, List.nil_append, heads, List.map_append, List.map_append,
      List.map_cons, List.map_cons]
    exact (ihContent.cons_cons _).append (ih.cons _)

/-! ## Rejections -/

/-- The places in a rejection: its own, and where the section was opened that another one closes. -/
def Rejection.places (r : Rejection) : List Location :=
  r.location :: match r.flaw with
    | .otherClosing _ _ opened => [opened]
    | _ => []

namespace Builder

variable {p : Location → Prop} {b b' : Builder} {t : Token} {r : Rejection}

/-- The open sections are at such places. -/
def OpenedAt (p : Location → Prop) (b : Builder) : Prop := ∀ s ∈ b.opened, p s.head.location

theorem places_of_expression {text : List Char} {here : Location}
    (h : expression text here = .error r) : r.places = [here] := by
  unfold expression at h
  cases hp : Expr.parse text with
  | ok e =>
    rw [hp] at h
    cases h
  | error flaw =>
    rw [hp] at h
    cases h
    rfl

/-- What is wrong with a closing tag is at this tag or where the innermost section is opened. -/
theorem places_of_close {text : List Char} (h : b.close t text = .error r) :
    ∀ l ∈ r.places, l = t.location ∨ ∃ s ∈ b.opened, l = s.head.location := by
  obtain ⟨nodes, inner, opened⟩ := b
  cases opened with
  | nil =>
    cases h
    exact List.forall_mem_singleton.2 (.inl rfl)
  | cons s outer =>
    by_cases ht : text = []
    · subst ht
      cases h
    · have nonempty : text.isEmpty = false := by
        simpa using ht
      simp only [close, nonempty, Bool.not_false, if_true] at h
      rcases bind_eq_error h with h | ⟨e, he, h⟩
      · rw [places_of_expression h]
        exact List.forall_mem_singleton.2 (.inl rfl)
      · by_cases hs : e = s.head.expression
        · rw [if_neg (not_not_intro hs)] at h
          cases h
        · rw [if_pos hs] at h
          cases h
          refine List.forall_mem_cons.2 ⟨.inl rfl, List.forall_mem_singleton.2 (.inr ?_)⟩
          exact ⟨s, List.mem_cons_self, rfl⟩

theorem places_of_addTag (h : b.addTag t = .error r) :
    ∀ l ∈ r.places, l = t.location ∨ ∃ s ∈ b.opened, l = s.head.location := by
  unfold addTag at h
  cases hr : Role.of t.tag with
  | variableTag escaped text | opening inverted text =>
    simp only [hr] at h
    rcases bind_eq_error h with h | ⟨e, he, h⟩
    · rw [places_of_expression h]
      exact List.forall_mem_singleton.2 (.inl rfl)
    · cases h
  | closing text =>
    simp only [hr] at h
    exact places_of_close h
  | comment =>
    simp only [hr] at h
    cases h
  | inclusion | delimiters | empty =>
    simp only [hr] at h
    cases h
    exact List.forall_mem_singleton.2 (.inl rfl)

/-- A tag opens sections only where it is. -/
theorem OpenedAt.adds (h : b.OpenedAt p) {m : Meaning} {here : Location} (hp : p here)
    (adds : Adds here b m b') : b'.OpenedAt p := by
  cases adds with
  | variableTag | comment => exact h
  | opening => exact List.forall_mem_cons.2 ⟨hp, h⟩
  | closing => exact (List.forall_mem_cons.1 h).2

/-- Either the open sections are at such places again, or what is wrong is. -/
theorem OpenedAt.step (h : b.OpenedAt p) (hp : p t.location) :
    (∀ b', b.step t = .ok b' → b'.OpenedAt p) ∧
      ∀ r, b.step t = .error r → ∀ l ∈ r.places, p l := by
  have read : (b.addText t.lead).OpenedAt p := by
    rw [OpenedAt, opened_addText]
    exact h
  constructor
  · intro b' hs
    obtain ⟨m, _, adds⟩ := adds_of_addTag hs
    exact read.adds hp adds
  · intro r hs l hl
    rcases places_of_addTag hs l hl with rfl | ⟨s, open_, rfl⟩
    · exact hp
    · exact read s open_

/-- So it is behind every row of tokens at such places. -/
theorem OpenedAt.steps {tokens : List Token} (h : b.OpenedAt p)
    (hp : ∀ t ∈ tokens, p t.location) :
    (∀ b', tokens.foldlM Builder.step b = .ok b' → b'.OpenedAt p) ∧
      ∀ r, tokens.foldlM Builder.step b = .error r → ∀ l ∈ r.places, p l := by
  induction tokens generalizing b with
  | nil =>
    refine ⟨fun b' hs => ?_, fun r hs => ?_⟩
    · cases hs
      exact h
    · cases hs
  | cons t ts ih =>
    obtain ⟨first, others⟩ := List.forall_mem_cons.1 hp
    obtain ⟨ok, error⟩ := h.step first
    rw [List.foldlM_cons]
    cases hs : b.step t with
    | error r =>
      refine ⟨fun b' stopped => (nomatch stopped), fun r' stopped => ?_⟩
      cases stopped
      exact error r hs
    | ok b₁ => exact ih (ok b₁ hs) others

theorem OpenedAt.finish (h : b.OpenedAt p) {here : Location} {rest : List Char}
    (stray : ∀ l, strayBraces? here rest = some l → p l) (hr : b.finish here rest = .error r) :
    ∀ l ∈ r.places, p l := by
  cases ho : b.opened with
  | cons s outer =>
    rw [finish_of_open ho] at hr
    cases hr
    refine List.forall_mem_singleton.2 (h s ?_)
    rw [ho]
    exact List.mem_cons_self
  | nil =>
    rw [finish_of_closed ho] at hr
    cases hs : strayBraces? here rest with
    | none =>
      rw [hs] at hr
      cases hr
    | some l =>
      rw [hs] at hr
      cases hr
      exact List.forall_mem_singleton.2 (stray l hs)

end Builder

/-- The stray braces behind the tokens of a source are opening braces of it. -/
theorem opens_strayBraces {tokens : List Token} {rest : List Char} {l : Location}
    (scanned : Token.scan template source.toList = (tokens, rest))
    (stray : Builder.strayBraces? (placeBehind template tokens) rest = some l) :
    l.Opens template source := by
  obtain ⟨a, b, first, rfl⟩ := strayBraces?_eq_some_iff.1 stray
  obtain ⟨leftmost, _⟩ := Token.scan_eq_iff.1 scanned
  refine ⟨tokens.flatMap Token.source ++ a, b, ?_, ?_⟩
  · rw [← leftmost.source_eq, Token.source_cut, Token.sourceOf, first.split]
    simp only [List.append_assoc]
  · rw [Token.placeBehind_eq, Location.after_counted]

/-- Every place that the reader of templates gives is exact. The tags of a tree are at opening
braces of the source, and their places ascend in the order of the tags; and a rejected source has
opening braces wherever the rejection says that something is wrong. -/
theorem places_exact (template : Option String) (source : String) :
    match parse template source with
    | .ok t => (∀ head ∈ t.heads, head.location.Opens template source) ∧
        t.heads.Pairwise (·.location.Before ·.location)
    | .error r => ∀ l ∈ r.places, l.Opens template source := by
  obtain ⟨⟨tokens, rest⟩, scanned⟩ : ∃ found, Token.scan template source.toList = found := ⟨_, rfl⟩
  have opens := Token.opens_of_scan scanned
  cases hp : parse template source with
  | ok t =>
    obtain ⟨spells, _⟩ := (parse_eq_ok_iff scanned).1 hp
    have places := spells.places_sublist
    constructor
    · intro head hh
      obtain ⟨u, hu, same⟩ := List.mem_map.1 (places.subset (List.mem_map_of_mem hh))
      exact same ▸ opens u hu
    · have ascend := (Token.scan_eq_iff.1 scanned).2.ascend
      exact List.pairwise_map.1 ((List.pairwise_map.2 ascend).sublist places)
  | error r =>
    have start : Builder.start.OpenedAt (·.Opens template source) :=
      List.forall_mem_nil _
    obtain ⟨ok, error⟩ := start.steps opens
    rw [parse, scanned] at hp
    rcases Builder.bind_eq_error hp with stopped | ⟨b, hb, finished⟩
    · exact error r stopped
    · exact (ok b hb).finish (fun l => opens_strayBraces scanned) finished

end Template

end Stencil
