-- Sources in front of and behind others. What is read does not depend on the whole lines around it
-- but for its places, which move down by the lines in front; so rows of tokens can be put together
-- and taken apart where a line begins.
import Stencil.Proofs.Cuts

namespace Stencil

open Text (firstLine wholeLine lastLine EndsLine)

/-! ## Ends of lines -/

theorem Text.EndsLine.of_append {a b : List Char} (h : EndsLine (a ++ b)) : EndsLine b := by
  rcases List.eq_nil_or_concat b with rfl | ⟨b, c, rfl⟩
  · exact .inl rfl
  · rw [List.concat_eq_append] at h ⊢
    rcases h with h | ⟨x, h⟩
    · simp at h
    · rw [← List.append_assoc] at h
      obtain ⟨_, last⟩ := List.append_inj' h rfl
      exact .inr ⟨b, by rw [last]⟩

/-- A line that ends behind a tag ends in the text behind it. -/
theorem RawTag.mem_of_endsLine {a b : List Char} {t : RawTag} (h : EndsLine (a ++ t.source ++ b)) :
    '\n' ∈ b := by
  rcases h.of_append with rfl | ⟨b, rfl⟩
  · obtain ⟨x, hx⟩ := Token.exists_source_eq t
    rw [List.append_nil, hx, ← List.append_assoc] at h
    rcases h with h | ⟨y, h⟩
    · simp at h
    · obtain ⟨_, last⟩ := List.append_inj' h rfl
      cases last
  · simp

/-! ## Moving places -/

namespace Location

/-- What moves a place together with the next one moves it together with every later one. -/
theorem after_comm {f : Location → Location} (h : ∀ l c, (f l).next c = f (l.next c))
    (l : Location) (cs : List Char) : (f l).after cs = f (l.after cs) := by
  induction cs generalizing l with
  | nil => rfl
  | cons c cs ih => rw [after_cons, after_cons, h, ih]

/-- The place in a template of another name. -/
def named (template : Option String) (l : Location) : Location := { l with template }

theorem next_named (template : Option String) (l : Location) (c : Char) :
    (l.named template).next c = (l.next c).named template := by
  unfold next named
  split <;> rfl

/-- The place a number of lines further down. -/
def below (n : Nat) (l : Location) : Location := { l with line := l.line + n }

theorem next_below (n : Nat) (l : Location) (c : Char) :
    (l.below n).next c = (l.next c).below n := by
  unfold next below
  split
  · simp only [Location.mk.injEq, and_self, and_true]
    omega
  · rfl

theorem line_after (l : Location) (cs : List Char) :
    (l.after cs).line = l.line + cs.count '\n' := by
  induction cs generalizing l with
  | nil => rfl
  | cons c cs ih =>
    rw [after_cons, ih, next, List.count_cons]
    split
    · rename_i h
      simp only [h, beq_self_eq_true, if_true]
      omega
    · rename_i h
      simp only [beq_iff_eq, h, if_false]
      rfl

/-- Behind whole lines a place is a first place further down. -/
theorem after_of_endsLine {a : List Char} (h : EndsLine a) (template : Option String) :
    (start template).after a = (start template).below (a.count '\n') := by
  rcases h with rfl | ⟨a, rfl⟩
  · rfl
  · have line := line_after (start template) (a ++ ['\n'])
    have last : (start template).after (a ++ ['\n']) = ((start template).after a).next '\n' := by
      rw [after_append]
      rfl
    rw [last] at line ⊢
    simp only [next, if_true] at line ⊢
    simp only [below, line, template_after]
    rfl

end Location

/-! ## Trees at other places -/

namespace Node

mutual

/-- The node with its places changed. -/
def relocate (f : Location → Location) : Node → Node
  | .text content => .text content
  | .variableTag head escaped => .variableTag ⟨head.expression, f head.location⟩ escaped
  | .sectionTag head inverted children inner =>
    .sectionTag ⟨head.expression, f head.location⟩ inverted (relocateList f children) inner

def relocateList (f : Location → Location) : List Node → List Node
  | [] => []
  | n :: rest => n.relocate f :: relocateList f rest

end

theorem relocateList_eq_map (f : Location → Location) (l : List Node) :
    relocateList f l = l.map (relocate f) := by
  induction l with
  | nil => rfl
  | cons n rest ih => rw [relocateList, ih, List.map_cons]

end Node

namespace Template

/-- The template with its places changed. -/
def relocate (f : Location → Location) (t : Template) : Template := Node.relocateList f t

/-- The template a number of lines further down. -/
def below (n : Nat) (t : Template) : Template := t.relocate (Location.below n)

theorem relocate_append (f : Location → Location) (a b : Template) :
    relocate f (a ++ b) = relocate f a ++ relocate f b := by
  simp only [relocate, Node.relocateList_eq_map, List.map_append]

theorem relocate_textNodes (f : Location → Location) (cs : List Char) :
    relocate f (textNodes cs) = textNodes cs := by
  unfold textNodes
  split
  · rfl
  · rfl

end Template

/-! ## Tokens at other places -/

namespace Token

/-- The token with its place changed. -/
def relocate (f : Location → Location) (t : Token) : Token := { t with location := f t.location }

/-- The token a number of lines further down. -/
def below (n : Nat) (t : Token) : Token := t.relocate (Location.below n)

variable {f : Location → Location} {tokens : List Token} {rest : List Char}

theorem sourceOf_relocate (tokens : List Token) (rest : List Char) :
    sourceOf (tokens.map (relocate f)) rest = sourceOf tokens rest := by
  rw [sourceOf, sourceOf, List.flatMap_map]
  rfl

theorem cut_relocate (tokens : List Token) (rest : List Char) :
    cut (tokens.map (relocate f)) rest = cut tokens rest := by
  induction tokens with
  | nil => rfl
  | cons t ts ih =>
    rw [List.map_cons, cut, ih]
    rfl

theorem IsClean.relocate {t : Token} (h : t.IsClean) : (t.relocate f).IsClean :=
  ⟨h.firm, h.front, h.back⟩

end Token

namespace Template

variable {f : Location → Location} {tokens : List Token} {rest : List Char} {nodes : Template}

theorem Spells.relocate (h : Spells tokens rest nodes) (f : Location → Location) :
    Spells (tokens.map (Token.relocate f)) rest (nodes.relocate f) := by
  induction h with
  | nil =>
    rw [relocate_textNodes]
    exact .nil
  | @variableTag t _ _ _ _ _ ht _ ih =>
    rw [relocate_append, relocate_textNodes]
    exact Spells.variableTag (t := t.relocate f) ht ih
  | @comment t _ _ _ ht _ ih =>
    rw [relocate_append, relocate_textNodes]
    exact Spells.comment (t := t.relocate f) ht ih
  | @sectionTag opener closer inner _ _ _ _ _ _ _ ho hc hname _ _ ihContent ih =>
    have opens : (opener.relocate f).tag.Means _ := ho
    have closes : (closer.relocate f).tag.Means _ := hc
    rw [relocate_append, relocate_textNodes, List.map_append, List.map_cons, List.map_cons]
    rw [← Token.sourceOf_relocate (f := f)]
    exact .sectionTag opens closes hname ihContent ih

/-- What relocated tokens spell is relocated too. -/
theorem Spells.of_relocate (h : Spells (tokens.map (Token.relocate f)) rest nodes) :
    ∃ t : Template, nodes = t.relocate f ∧ Spells tokens rest t := by
  generalize hmap : tokens.map (Token.relocate f) = ts at h
  induction h generalizing tokens with
  | nil =>
    obtain rfl := List.map_eq_nil_iff.1 hmap
    exact ⟨_, (relocate_textNodes f _).symm, .nil⟩
  | variableTag ht _ ih =>
    obtain ⟨t, ts, rfl, rfl, hts⟩ := List.map_eq_cons_iff.1 hmap
    obtain ⟨nodes, rfl, spells⟩ := ih hts
    refine ⟨_, ?_, .variableTag (t := t) ht spells⟩
    rw [relocate_append, relocate_textNodes]
    rfl
  | comment ht _ ih =>
    obtain ⟨t, ts, rfl, rfl, hts⟩ := List.map_eq_cons_iff.1 hmap
    obtain ⟨nodes, rfl, spells⟩ := ih hts
    refine ⟨_, ?_, .comment (t := t) ht spells⟩
    rw [relocate_append, relocate_textNodes]
    rfl
  | sectionTag ho hc hname _ _ ihContent ih =>
    obtain ⟨front, back, rfl, hfront, hback⟩ := List.map_eq_append_iff.1 hmap
    obtain ⟨opener, inner, rfl, rfl, hinner⟩ := List.map_eq_cons_iff.1 hfront
    obtain ⟨closer, behind, rfl, rfl, hbehind⟩ := List.map_eq_cons_iff.1 hback
    obtain ⟨children, rfl, inside⟩ := ihContent hinner
    obtain ⟨nodes, rfl, outside⟩ := ih hbehind
    have opens : opener.tag.Means _ := ho
    have closes : closer.tag.Means _ := hc
    refine ⟨_, ?_, .sectionTag opens closes hname inside outside⟩
    rw [relocate_append, relocate_textNodes, ← hinner, Token.sourceOf_relocate]
    rfl

end Template

/-! ## Rows of tokens -/

namespace Token

variable {template : Option String} {before rest : List Char} {tokens : List Token}

theorem sourceOf_append (a b : List Token) (rest : List Char) :
    sourceOf (a ++ b) rest = sourceOf a (sourceOf b rest) := by
  rw [sourceOf, List.flatMap_append, List.append_assoc]
  rfl

theorem inPlace_append_iff {a b : List Token} :
    InPlace template before (a ++ b) rest ↔
      InPlace template before a (sourceOf b rest) ∧
        InPlace template (before ++ a.flatMap source) b rest := by
  induction a generalizing before with
  | nil =>
    rw [List.flatMap_nil, List.append_nil, List.nil_append]
    exact ⟨fun h => ⟨.nil, h⟩, fun h => h.2⟩
  | cons t ts ih =>
    rw [List.cons_append, List.flatMap_cons, ← List.append_assoc]
    constructor
    · intro h
      cases h with
      | cons fits location h =>
        rw [sourceOf_append] at fits
        exact ⟨.cons fits location (ih.1 h).1, (ih.1 h).2⟩
    · rintro ⟨ha, hb⟩
      cases ha with
      | cons fits location ha =>
        rw [← sourceOf_append] at fits
        exact .cons fits location (ih.2 ⟨ha, hb⟩)

/-- A row of tokens with more text in front, which belongs to the first of them. -/
def withFront (a : List Char) : List Token → List Char → List Token × List Char
  | [], rest => ([], a ++ rest)
  | t :: ts, rest => ({ t with lead := a ++ t.lead } :: ts, rest)

theorem sourceOf_withFront (a : List Char) (tokens : List Token) (rest : List Char) :
    sourceOf (withFront a tokens rest).1 (withFront a tokens rest).2 =
      a ++ sourceOf tokens rest := by
  cases tokens with
  | nil => rfl
  | cons t ts => simp [withFront, sourceOf, source]

theorem InPlace.withFront {a : List Char} (h : InPlace template (before ++ a) tokens rest) :
    InPlace template before (withFront a tokens rest).1 (withFront a tokens rest).2 := by
  cases h with
  | nil => exact .nil
  | @cons _ _ t ts fits location h =>
    have front : before ++ a ++ t.lead ++ t.indent = before ++ (a ++ t.lead) ++ t.indent := by
      rw [List.append_assoc before]
    have whole : before ++ a ++ t.source = before ++ source { t with lead := a ++ t.lead } := by
      simp [source]
    rw [front] at fits location
    rw [whole] at h
    exact .cons ⟨fits.alone, fits.beside⟩ location h

/-! ## Whole lines around a row -/

/-- What stands behind the line of a tag does not matter to it. -/
theorem extends_append_iff {t : Token} {behind : List Char} (h : '\n' ∈ behind) (b : List Char) :
    t.Extends before (behind ++ b) ↔ t.Extends before behind := by
  have same : t.tag.StandsAlone before (behind ++ b) ↔ t.tag.StandsAlone before behind :=
    RawTag.standsAlone_append_iff (a := []) (.inl rfl) (.inr h)
  have line := Text.wholeLine_append_of_mem h b
  constructor
  · intro fits
    refine ⟨fun alone => ?_, fun beside => fits.beside (mt same.1 beside)⟩
    rw [← line]
    exact fits.alone (same.2 alone)
  · intro fits
    refine ⟨fun alone => ?_, fun beside => fits.beside (mt same.2 beside)⟩
    rw [line]
    exact fits.alone (same.1 alone)

/-- Whole lines in front of the line of a tag do not matter to it. -/
theorem Extends.behind_lines {t : Token} {a behind : List Char} (h : t.Extends before behind)
    (ha : EndsLine a) : t.Extends (a ++ before) behind := by
  have same : t.tag.StandsAlone (a ++ before) behind ↔ t.tag.StandsAlone before behind := by
    have line : t.tag.StandsAlone (a ++ before) (behind ++ []) ↔ _ :=
      RawTag.standsAlone_append_iff ha (.inl rfl)
    rw [List.append_nil] at line
    exact line
  refine ⟨fun alone => ?_, fun beside => h.beside (mt same.2 beside)⟩
  rw [Text.lastLine_append_of_endsLine ha]
  exact h.alone (same.1 alone)

/-- Behind a token a line ends if one ends behind the whole row. -/
theorem mem_newline_of_endsLine {t : Token} (ends : EndsLine (sourceOf (t :: tokens) rest)) :
    '\n' ∈ t.trail ++ sourceOf tokens rest ∧ EndsLine (sourceOf tokens rest) := by
  have split : sourceOf (t :: tokens) rest =
      t.lead ++ t.indent ++ t.tag.source ++ (t.trail ++ sourceOf tokens rest) := by
    simp [sourceOf, source]
  rw [split] at ends
  refine ⟨RawTag.mem_of_endsLine ends, ?_⟩
  rw [← List.append_assoc] at ends
  exact ends.of_append

/-- What stands behind a row that ends a line does not matter to its tokens. -/
theorem inPlace_append_lines (ends : EndsLine (sourceOf tokens rest)) (b : List Char) :
    InPlace template before tokens (rest ++ b) ↔ InPlace template before tokens rest := by
  induction tokens generalizing before with
  | nil => exact ⟨fun _ => .nil, fun _ => .nil⟩
  | cons t ts ih =>
    obtain ⟨line, next⟩ := mem_newline_of_endsLine ends
    have behind : t.trail ++ sourceOf ts (rest ++ b) = t.trail ++ sourceOf ts rest ++ b := by
      simp [sourceOf]
    constructor
    · intro h
      cases h with
      | cons fits location h =>
        rw [behind] at fits
        exact .cons ((extends_append_iff line b).1 fits) location ((ih next).1 h)
    · intro h
      cases h with
      | cons fits location h =>
        refine .cons ?_ location ((ih next).2 h)
        rw [behind]
        exact (extends_append_iff line b).2 fits

/-- A row of tokens in place is in place behind whole lines, with its places moved. -/
theorem InPlace.behind {name : Option String} {f : Location → Location} {a : List Char}
    (h : InPlace template before tokens rest) (ha : EndsLine a)
    (there : ∀ cs, (Location.start name).after (a ++ cs) =
      f ((Location.start template).after cs)) :
    InPlace name (a ++ before) (tokens.map (relocate f)) rest := by
  induction h with
  | nil => exact .nil
  | @cons before rest t ts fits location _ ih =>
    have place := congrArg f location
    rw [← there] at place
    have source : t.trail ++ sourceOf (ts.map (relocate f)) rest = t.trail ++ sourceOf ts rest :=
      congrArg _ (sourceOf_relocate ts rest)
    have fits := fits.behind_lines ha
    rw [← source] at fits
    simp only [← List.append_assoc] at fits place ih
    exact .cons ⟨fits.alone, fits.beside⟩ place ih

/-- Behind whole lines a row of tokens is further down. -/
theorem InPlace.behind_lines {a : List Char} (h : InPlace template before tokens rest)
    (ha : EndsLine a) :
    InPlace template (a ++ before) (tokens.map (Token.below (a.count '\n'))) rest := by
  refine h.behind ha fun cs => ?_
  rw [Location.after_append, Location.after_of_endsLine ha]
  exact Location.after_comm (Location.next_below _) _ cs

/-- In a template of another name a row of tokens is at the places of that name. -/
theorem InPlace.named (h : InPlace template before tokens rest) (name : Option String) :
    InPlace name before (tokens.map (relocate (Location.named name))) rest :=
  h.behind (.inl rfl) (Location.after_comm (Location.next_named name) (Location.start template))

end Token

end Stencil
