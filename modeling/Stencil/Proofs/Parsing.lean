-- The reader of templates accepts what the grammar describes, and nothing else. What it has read is
-- always a row of tags with meanings, of which its open sections and its nodes are a record; the
-- first tag that cannot follow is the one that is rejected.
import Stencil.Proofs.Grammar

namespace Stencil

/-! ## Flat trees -/

/-- A tree written flat: variables, and sections from their opening to their closing. -/
inductive Mark where
  | variableTag (expression : Expr) (escaped : Bool)
  | opening (expression : Expr) (inverted : Bool)
  | closing
  deriving DecidableEq

/-- The mark that a tag leaves in the tree. -/
def Meaning.mark? : Meaning → Option Mark
  | .variableTag e escaped => some (.variableTag e escaped)
  | .opening e inverted => some (.opening e inverted)
  | .closing _ => some .closing
  | .comment => none

/-- The marks that a row of tags leaves in the tree. -/
def ReadTag.marks (read : List ReadTag) : List Mark :=
  (read.map (·.meaning)).filterMap Meaning.mark?

namespace Node

mutual

/-- The marks of a node: a section is its opening, its content and its closing. -/
def marks : Node → List Mark
  | .text _ => []
  | .variableTag head escaped => [.variableTag head.expression escaped]
  | .sectionTag head inverted children _ =>
    .opening head.expression inverted :: marksList children ++ [.closing]

def marksList : List Node → List Mark
  | [] => []
  | n :: rest => n.marks ++ marksList rest

end

theorem marksList_append (a b : List Node) : marksList (a ++ b) = marksList a ++ marksList b := by
  induction a with
  | nil => rfl
  | cons n rest ih => rw [List.cons_append, marksList, marksList, ih, List.append_assoc]

theorem marksList_reverse_cons (n : Node) (before : List Node) :
    marksList (n :: before).reverse = marksList before.reverse ++ n.marks := by
  rw [List.reverse_cons, marksList_append, marksList, marksList, List.append_nil]

end Node

namespace Template

/-- Whether a flaw lies in a tag, and not at the end of the source. -/
def Flaw.isOfTag : Flaw → Bool
  | .unclosedSection _ | .unclosedTag => false
  | _ => true

open Node (marksList marksList_append marksList_reverse_cons)

/-- The marks of a template. -/
def marks (t : Template) : List Mark := marksList t

namespace Builder

/-- The marks in front of the innermost open section, its own opening included. -/
def marksBefore : List OpenSection → List Mark
  | [] => []
  | s :: outer =>
    marksBefore outer ++ marksList s.before.reverse ++ [.opening s.head.expression s.inverted]

/-- The marks of what has been read. -/
def marks (b : Builder) : List Mark := marksBefore b.opened ++ marksList b.nodes.reverse

/-- The builder holds what tags say: its open sections are those that the tags leave open, and its
nodes have the marks of the tags. -/
structure Holds (b : Builder) (read : List ReadTag) : Prop where
  opened : Opened read (b.opened.map (·.head))
  marks : b.marks = ReadTag.marks read

theorem holds_start : start.Holds [] := ⟨.nested .nil, rfl⟩

variable {b b' : Builder} {t : Token} {read : List ReadTag}

/-- Text changes neither. -/
theorem Holds.addText (h : b.Holds read) (cs : List Char) : (b.addText cs).Holds read := by
  unfold Builder.addText
  split
  · exact h
  · refine ⟨h.opened, ?_⟩
    rw [← h.marks, Builder.marks, Builder.marks, marksList_reverse_cons]
    exact congrArg _ (List.append_nil _)

theorem marks_snoc (read : List ReadTag) (r : ReadTag) :
    ReadTag.marks (read ++ [r]) = ReadTag.marks read ++ r.meaning.mark?.toList := by
  rw [ReadTag.marks, List.map_append, List.filterMap_append, ReadTag.marks]
  cases h : r.meaning.mark? <;> simp [h]

/-! ## One tag -/

/-- What a tag with a meaning does to a builder. -/
inductive Adds (here : Location) : Builder → Meaning → Builder → Prop
  | variableTag {b : Builder} {e : Expr} {escaped : Bool} {inner : List Char} :
    Adds here b (.variableTag e escaped)
      ⟨.variableTag ⟨e, here⟩ escaped :: b.nodes, inner, b.opened⟩
  | opening {b : Builder} {e : Expr} {inverted : Bool} {before : List Char} :
    Adds here b (.opening e inverted) ⟨[], [], ⟨⟨e, here⟩, inverted, b.nodes, before⟩ :: b.opened⟩
  | closing {nodes : List Node} {inner inner' : List Char} {content : String} {s : OpenSection}
    {outer : List OpenSection} {name : Option Expr} :
    name = none ∨ name = some s.head.expression →
    Adds here ⟨nodes, inner, s :: outer⟩ (.closing name)
      ⟨.sectionTag s.head s.inverted nodes.reverse content :: s.before, inner', outer⟩
  | comment {b : Builder} {inner : List Char} : Adds here b .comment ⟨b.nodes, inner, b.opened⟩

theorem expression_eq_ok {text : List Char} {here : Location} {e : Expr}
    (h : expression text here = .ok e) : Expr.parse text = .ok e := by
  unfold expression at h
  cases hp : Expr.parse text with
  | ok e' =>
    rw [hp] at h
    cases h
    rfl
  | error flaw =>
    rw [hp] at h
    cases h

theorem expression_eq_error {text : List Char} {here : Location} {r : Rejection}
    (h : expression text here = .error r) :
    r.location = here ∧ r.flaw.isOfTag = true ∧ ∀ e, Expr.parse text ≠ .ok e := by
  unfold expression at h
  cases hp : Expr.parse text with
  | ok e' =>
    rw [hp] at h
    cases h
  | error flaw =>
    rw [hp] at h
    cases h
    exact ⟨rfl, rfl, fun e he => nomatch he⟩

theorem bind_eq_ok {ε α β : Type} {x : Except ε α} {f : α → Except ε β} {y : β}
    (h : (x >>= f) = .ok y) : ∃ a, x = .ok a ∧ f a = .ok y := by
  cases x with
  | ok a => exact ⟨a, rfl, h⟩
  | error e => cases h

theorem bind_eq_error {ε α β : Type} {x : Except ε α} {f : α → Except ε β} {e : ε}
    (h : (x >>= f) = .error e) : x = .error e ∨ ∃ a, x = .ok a ∧ f a = .error e := by
  cases x with
  | ok a => exact .inr ⟨a, rfl, h⟩
  | error e' =>
    cases h
    exact .inl rfl

/-- A closing tag is accepted if a section is open, and if it is empty or names its expression. -/
theorem adds_of_close {text : List Char} (h : b.close t text = .ok b') :
    ∃ m, (Role.closing text).Means m ∧ Adds t.location b m b' := by
  obtain ⟨nodes, inner, opened⟩ := b
  cases opened with
  | nil => cases h
  | cons s outer =>
    by_cases ht : text = []
    · subst ht
      cases h
      exact ⟨.closing none, .inl ⟨rfl, rfl⟩, .closing (.inl rfl)⟩
    · have nonempty : text.isEmpty = false := by
        simpa using ht
      simp only [close, nonempty, Bool.not_false, if_true] at h
      obtain ⟨e, he, h⟩ := bind_eq_ok h
      by_cases hs : e = s.head.expression
      · rw [if_neg (not_not_intro hs)] at h
        cases h
        exact ⟨.closing (some e), .inr ⟨ht, e, expression_eq_ok he, rfl⟩, .closing (.inr (hs ▸ rfl))⟩
      · rw [if_pos hs] at h
        cases h

/-- A tag that is accepted has a meaning, and does what it means. -/
theorem adds_of_addTag (h : b.addTag t = .ok b') :
    ∃ m, t.tag.Means m ∧ Adds t.location b m b' := by
  suffices ∃ m, (Role.of t.tag).Means m ∧ Adds t.location b m b' by
    obtain ⟨m, hm, ha⟩ := this
    exact ⟨m, means_of_role_means hm, ha⟩
  unfold addTag at h
  cases hr : Role.of t.tag with
  | variableTag escaped text =>
    simp only [hr] at h
    obtain ⟨e, he, h⟩ := bind_eq_ok h
    cases h
    exact ⟨.variableTag e escaped, ⟨e, expression_eq_ok he, rfl⟩, .variableTag⟩
  | opening inverted text =>
    simp only [hr] at h
    obtain ⟨e, he, h⟩ := bind_eq_ok h
    cases h
    exact ⟨.opening e inverted, ⟨e, expression_eq_ok he, rfl⟩, .opening⟩
  | closing text =>
    simp only [hr] at h
    exact adds_of_close h
  | comment =>
    simp only [hr] at h
    cases h
    exact ⟨.comment, rfl, .comment⟩
  | inclusion | delimiters | empty =>
    simp only [hr] at h
    cases h

/-- A closing tag is rejected if nothing is open, or if it names anything else. -/
theorem stops_of_close {text : List Char} {r : Rejection} (h : b.close t text = .error r) :
    r.location = t.location ∧ r.flaw.isOfTag = true ∧ ∀ m, (Role.closing text).Means m →
      m.after (b.opened.map (·.head.expression)) = none := by
  obtain ⟨nodes, inner, opened⟩ := b
  cases opened with
  | nil =>
    cases h
    refine ⟨rfl, rfl, fun m hm => ?_⟩
    rcases hm with ⟨_, rfl⟩ | ⟨_, e, _, rfl⟩
    · rfl
    · rfl
  | cons s outer =>
    by_cases ht : text = []
    · subst ht
      cases h
    · have nonempty : text.isEmpty = false := by
        simpa using ht
      simp only [close, nonempty, Bool.not_false, if_true] at h
      rcases bind_eq_error h with h | ⟨e, he, h⟩
      · obtain ⟨location, flaw, invalid⟩ := expression_eq_error h
        refine ⟨location, flaw, fun m hm => ?_⟩
        rcases hm with ⟨empty, _⟩ | ⟨_, e, he, _⟩
        · exact absurd empty ht
        · exact absurd he (invalid e)
      · by_cases hs : e = s.head.expression
        · rw [if_neg (not_not_intro hs)] at h
          cases h
        · rw [if_pos hs] at h
          cases h
          refine ⟨rfl, rfl, fun m hm => ?_⟩
          rcases hm with ⟨empty, _⟩ | ⟨_, e', he', rfl⟩
          · exact absurd empty ht
          · cases (expression_eq_ok he).symm.trans he'
            refine if_neg ?_
            rintro (none | same)
            · cases none
            · exact hs (Option.some.inj same)

/-- A tag that is rejected has no meaning, or closes what is not open. -/
theorem stops_of_addTag {r : Rejection} (h : b.addTag t = .error r) :
    r.location = t.location ∧ r.flaw.isOfTag = true ∧ ∀ m, t.tag.Means m →
      m.after (b.opened.map (·.head.expression)) = none := by
  suffices r.location = t.location ∧ r.flaw.isOfTag = true ∧ ∀ m, (Role.of t.tag).Means m →
      m.after (b.opened.map (·.head.expression)) = none from
    ⟨this.1, this.2.1, fun m hm => this.2.2 m (role_means_of_means hm)⟩
  unfold addTag at h
  cases hr : Role.of t.tag with
  | variableTag escaped text | opening inverted text =>
    simp only [hr] at h
    rcases bind_eq_error h with h | ⟨e, he, h⟩
    · obtain ⟨location, flaw, invalid⟩ := expression_eq_error h
      refine ⟨location, flaw, fun m hm => ?_⟩
      obtain ⟨e, he, _⟩ := hm
      exact absurd he (invalid e)
    · cases h
  | closing text =>
    simp only [hr] at h
    exact stops_of_close h
  | comment =>
    simp only [hr] at h
    cases h
  | inclusion | delimiters | empty =>
    simp only [hr] at h
    cases h
    exact ⟨rfl, rfl, fun m hm => absurd hm id⟩

/-- One more tag is held as well. -/
theorem Holds.adds (h : b.Holds read) {r : ReadTag} (ha : Adds r.placed.location b r.meaning b') :
    b'.Holds (read ++ [r]) := by
  obtain ⟨opened, marks⟩ := h
  obtain ⟨placed, m, means⟩ := r
  simp only at ha
  cases ha with
  | variableTag =>
    refine ⟨opened.append (.variableTag .nil), ?_⟩
    rw [marks_snoc, ← marks, Builder.marks, Builder.marks, marksList_reverse_cons,
      ← List.append_assoc]
    rfl
  | opening =>
    refine ⟨.opening opened rfl .nil, ?_⟩
    rw [marks_snoc, ← marks, Builder.marks, Builder.marks, marksBefore]
    exact List.append_nil _
  | @closing nodes inner inner' content s outer name hname =>
    refine ⟨opened.close rfl hname, ?_⟩
    rw [marks_snoc, ← marks, Builder.marks, Builder.marks, marksBefore, marksList_reverse_cons,
      Node.marks]
    simp only [Meaning.mark?, Option.toList_some, List.append_assoc, List.cons_append,
      List.nil_append]
  | comment =>
    refine ⟨opened.append (.comment .nil), ?_⟩
    rw [marks_snoc, ← marks]
    exact (List.append_nil _).symm

/-- A token that is accepted is held with what it means. -/
theorem Holds.step (h : b.Holds read) (hs : b.step t = .ok b') :
    ∃ r : ReadTag, r.placed = t.placed ∧ b'.Holds (read ++ [r]) := by
  obtain ⟨m, means, adds⟩ := adds_of_addTag hs
  exact ⟨⟨t.placed, m, means⟩, rfl, (h.addText t.lead).adds adds⟩

theorem opened_addText (b : Builder) (cs : List Char) : (b.addText cs).opened = b.opened := by
  unfold Builder.addText
  split
  · rfl
  · rfl

/-- A token that is rejected cannot follow. -/
theorem Holds.stops (h : b.Holds read) {r : Rejection} (hs : b.step t = .error r) :
    r.location = t.location ∧ r.flaw.isOfTag = true ∧
      ¬ Viable (read.map (·.placed) ++ [t.placed]) := by
  obtain ⟨location, flaw, stops⟩ := stops_of_addTag hs
  refine ⟨location, flaw, h.opened.not_viable fun next hnext => ?_⟩
  have means := next.means
  rw [hnext] at means
  have stop := stops next.meaning means
  rw [opened_addText] at stop
  rw [List.map_map]
  exact stop

/-! ## All tags -/

/-- Either all tokens are accepted, and held, or one of them is the first that cannot follow. -/
theorem Holds.steps (h : b.Holds read) (tokens : List Token) :
    (∃ b' more, tokens.foldlM Builder.step b = .ok b' ∧
      more.map (·.placed) = tokens.map Token.placed ∧ b'.Holds (read ++ more)) ∨
    (∃ r before t after, tokens.foldlM Builder.step b = .error r ∧ tokens = before ++ t :: after ∧
      r.location = t.location ∧ r.flaw.isOfTag = true ∧
      Viable (read.map (·.placed) ++ before.map Token.placed) ∧
      ¬ Viable (read.map (·.placed) ++ before.map Token.placed ++ [t.placed])) := by
  induction tokens generalizing b read with
  | nil =>
    refine .inl ⟨b, [], rfl, rfl, ?_⟩
    rw [List.append_nil]
    exact h
  | cons t rest ih =>
    rw [List.foldlM_cons]
    -- The first token that is rejected ends the run, so all in front of it are held.
    cases hs : b.step t with
    | error r =>
      obtain ⟨location, flaw, stops⟩ := h.stops hs
      refine .inr ⟨r, [], t, rest, rfl, rfl, location, flaw, ?_, ?_⟩
      · rw [List.map_nil, List.append_nil]
        exact h.opened.viable
      · rw [List.map_nil, List.append_nil]
        exact stops
    | ok b' =>
      obtain ⟨first, hfirst, hb'⟩ := h.step hs
      rcases ih hb' with ⟨b'', more, hrun, hmore, hb''⟩ | ⟨r, before, u, after, hrun, rfl, hu⟩
      · refine .inl ⟨b'', first :: more, hrun, ?_, ?_⟩
        · rw [List.map_cons, List.map_cons, hfirst, hmore]
        · rw [List.append_assoc, List.singleton_append] at hb''
          exact hb''
      · refine .inr ⟨r, t :: before, u, after, hrun, rfl, ?_⟩
        rw [List.map_append, List.map_cons, List.map_nil, hfirst] at hu
        simp only [List.append_assoc, List.singleton_append] at hu ⊢
        exact hu

end Builder

/-! ## Sources -/

/-- What a source is rejected for: the first tag with which it cannot go on; if there is none, the
innermost section that is never closed; if there is none, the first braces behind the last tag. -/
inductive Rejects (tags : List PlacedTag) (ending : Location × List Char) : Rejection → Prop
  | tag {before after : List PlacedTag} {p : PlacedTag} {r : Rejection} :
    tags = before ++ p :: after → Viable before → ¬ Viable (before ++ [p]) →
    r.location = p.location → r.flaw.isOfTag = true → Rejects tags ending r
  | unclosedSection {before : List PlacedTag} {p : PlacedTag} {inner : List ReadTag} {e : Expr}
    {inverted : Bool} :
    Viable tags → tags = before ++ p :: inner.map (·.placed) → p.tag.Means (.opening e inverted) →
    Nested (inner.map (·.meaning)) → Rejects tags ending ⟨.unclosedSection e, p.location⟩
  | unclosedTag {read : List ReadTag} {a b : List Char} :
    read.map (·.placed) = tags → Nested (read.map (·.meaning)) →
    Text.IsFirst (RawTag.opening false) a b ending.2 →
    Rejects tags ending ⟨.unclosedTag, ending.1.after a⟩

theorem Builder.finish_of_open {b : Builder} {s : OpenSection} {outer : List OpenSection}
    (h : b.opened = s :: outer) (here : Location) (rest : List Char) :
    b.finish here rest = .error ⟨.unclosedSection s.head.expression, s.head.location⟩ := by
  simp only [Builder.finish, h]

theorem Builder.finish_of_closed {b : Builder} (h : b.opened = []) (here : Location)
    (rest : List Char) :
    b.finish here rest = (strayBraces? here rest).elim (.ok (b.addText rest).nodes.reverse)
      fun location => .error ⟨.unclosedTag, location⟩ := by
  unfold Builder.finish
  rw [h]
  cases strayBraces? here rest with
  | none => rfl
  | some location => rfl

theorem nodes_marks {b : Builder} {read : List ReadTag} (h : b.Holds read) (ho : b.opened = []) :
    marks b.nodes.reverse = ReadTag.marks read := by
  rw [← h.marks, Builder.marks, ho]
  rfl

/-- Behind the last tag the builder gives its tree if no section is open and no braces are left;
otherwise it rejects the source for the first of these that is wrong. -/
theorem finish_cases {b : Builder} {read : List ReadTag} (h : b.Holds read) {here : Location}
    {rest : List Char} {ending : Location × List Char}
    (stray : Builder.strayBraces? here rest = Builder.strayBraces? ending.1 ending.2) :
    (∃ t, b.finish here rest = .ok t ∧ Nested (read.map (·.meaning)) ∧
      (∀ x y, ending.2 ≠ x ++ RawTag.opening false ++ y) ∧ marks t = ReadTag.marks read) ∨
    ∃ r, b.finish here rest = .error r ∧ Rejects (read.map (·.placed)) ending r := by
  have opened := h.opened
  cases ho : b.opened with
  | nil =>
    rw [ho] at opened
    rw [Builder.finish_of_closed ho, stray]
    have nested := opened.nested_iff.2 rfl
    cases hs : Builder.strayBraces? ending.1 ending.2 with
    | none =>
      refine .inl ⟨_, rfl, nested, fun x y split => ?_, ?_⟩
      · rw [strayBraces?_eq] at hs
        exact RawTag.until?_eq_none (Option.map_eq_none_iff.1 hs) x y split
      · refine nodes_marks (h.addText rest) ?_
        rw [Builder.opened_addText, ho]
    | some location =>
      obtain ⟨x, y, first, rfl⟩ := strayBraces?_eq_some_iff.1 hs
      exact .inr ⟨_, rfl, .unclosedTag rfl nested first⟩
  | cons s outer =>
    rw [ho] at opened
    rw [Builder.finish_of_open ho]
    obtain ⟨before, opener, inner, e, inverted, rfl, hs, hopener, _, nested⟩ := opened.innermost
    have head : s.head = ⟨e, opener.placed.location⟩ := hs
    have tags : (before ++ opener :: inner).map (·.placed) =
        before.map (·.placed) ++ opener.placed :: inner.map (·.placed) := by
      rw [List.map_append, List.map_cons]
    refine .inr ⟨_, rfl, ?_⟩
    rw [head]
    exact .unclosedSection opened.viable tags (hopener ▸ opener.means) nested

/-- The reader either gives a tree with the marks of the tags, which nest, or rejects the source for
the first of its flaws. -/
theorem parse_cases (template : Option String) (source : String) :
    (∃ t read, parse template source = .ok t ∧
      read.map (·.placed) = (Cut.of source.toList).placed template ∧
      Nested (read.map (·.meaning)) ∧
      (∀ a b, ((Cut.of source.toList).ending template).2 ≠ a ++ RawTag.opening false ++ b) ∧
      marks t = ReadTag.marks read) ∨
    ∃ r, parse template source = .error r ∧
      Rejects ((Cut.of source.toList).placed template) ((Cut.of source.toList).ending template)
        r := by
  have placed := Token.placed_scan template source.toList
  have stray := strayBraces?_scan template source.toList
  unfold parse
  -- Of the scan, only the places of its tags and its stray braces matter from here on.
  generalize Token.scan template source.toList = scanned at placed stray ⊢
  obtain ⟨tokens, rest⟩ := scanned
  simp only at placed stray ⊢
  rcases Builder.holds_start.steps tokens with
    ⟨b, read, hrun, hread, hb⟩ | ⟨r, before, t, after, hrun, rfl, hr, flaw, viable, stops⟩
  · rw [List.nil_append] at hb
    rw [placed] at hread
    rw [hrun, ← hread]
    rcases finish_cases hb stray with ⟨t, ht, nested, straight, hmarks⟩ | ⟨r, hr, rejects⟩
    · exact .inl ⟨t, read, ht, rfl, nested, straight, hmarks⟩
    · exact .inr ⟨r, hr, rejects⟩
  · have tags : (Cut.of source.toList).placed template =
        before.map Token.placed ++ t.placed :: after.map Token.placed := by
      rw [← placed, List.map_append, List.map_cons]
    refine .inr ⟨r, ?_, .tag tags viable stops hr flaw⟩
    rw [hrun]
    rfl

/-- Tags that nest do not stop being the beginning of a template anywhere. -/
theorem viable_of_nested {read : List ReadTag} {before after : List PlacedTag}
    (h : read.map (·.placed) = before ++ after) (hn : Nested (read.map (·.meaning))) :
    Viable before := by
  obtain ⟨front, back, rfl, hfront, _⟩ := List.map_eq_append_iff.1 h
  refine ⟨front, back.map (·.meaning), hfront, ?_⟩
  rw [← List.map_append]
  exact hn

/-- Tags that nest do not leave a section open. -/
theorem closed_of_nested {read inner : List ReadTag} {before : List PlacedTag} {p : PlacedTag}
    {e : Expr} {inverted : Bool} (h : read.map (·.placed) = before ++ p :: inner.map (·.placed))
    (hp : p.tag.Means (.opening e inverted)) (hinner : Nested (inner.map (·.meaning))) :
    ¬ Nested (read.map (·.meaning)) := by
  obtain ⟨front, back, rfl, _, hback⟩ := List.map_eq_append_iff.1 h
  obtain ⟨r, rest, rfl, rfl, hrest⟩ := List.map_eq_cons_iff.1 hback
  intro hn
  have run := hn.run []
  rw [List.map_append, Meaning.run_append, List.map_cons, meanings_unique hrest,
    means_unique r.means hp] at run
  obtain ⟨opened, _, run⟩ := Option.bind_eq_some_iff.1 run
  rw [Meaning.run_cons, Meaning.after, Option.bind_some, hinner.run] at run
  cases run

/-- A source that is rejected breaks a rule. -/
theorem Rejects.breaks {tags : List PlacedTag} {ending : Location × List Char} {r : Rejection}
    (h : Rejects tags ending r) {read : List ReadTag} (hread : read.map (·.placed) = tags)
    (hn : Nested (read.map (·.meaning))) :
    ∃ a b, ending.2 = a ++ RawTag.opening false ++ b := by
  cases h with
  | @tag before after p r htags _ stops _ _ =>
    have split : read.map (·.placed) = (before ++ [p]) ++ after := by
      rw [hread, htags, List.append_assoc]
      rfl
    exact absurd (viable_of_nested split hn) stops
  | unclosedSection _ htags hp hinner =>
    exact absurd hn (closed_of_nested (hread.trans htags) hp hinner)
  | unclosedTag _ _ first => exact ⟨_, _, first.split⟩

/-- The grammar of templates. A source has one cut at its leftmost tags, and the reader gives a tree
if and only if each of these tags has a meaning, sections nest, and no braces open behind the last
tag. Written flat, the tree has the marks of the tags, in their order; and a source that is no
template is rejected for the first of its flaws. -/
theorem parse_iff_grammar (template : Option String) (source : String) :
    ∃ cut : Cut, (∀ other, Cut.Leftmost source.toList other ↔ other = cut) ∧
      ((∃ t, parse template source = .ok t) ↔
        (∃ read : List ReadTag, read.map (·.placed) = cut.placed template ∧
          Nested (read.map (·.meaning))) ∧
        ∀ a b, (cut.ending template).2 ≠ a ++ RawTag.opening false ++ b) ∧
      (∀ t (read : List ReadTag), parse template source = .ok t →
        read.map (·.placed) = cut.placed template → marks t = ReadTag.marks read) ∧
      ∀ r, parse template source = .error r → Rejects (cut.placed template) (cut.ending template) r := by
  refine ⟨Cut.of source.toList, fun other => ?_, ?_⟩
  · constructor
    · intro h
      exact h.unique (Cut.leftmost_of _)
    · rintro rfl
      exact Cut.leftmost_of _
  rcases parse_cases template source with
    ⟨t, read, hparse, hread, nested, stray, hmarks⟩ | ⟨r, hparse, rejects⟩
  · refine ⟨⟨fun _ => ⟨⟨read, hread, nested⟩, stray⟩, fun _ => ⟨t, hparse⟩⟩, ?_, ?_⟩
    · intro t' read' hparse' hread'
      cases hparse.symm.trans hparse'
      rw [hmarks, ReadTag.marks, ReadTag.marks, meanings_unique (hread.trans hread'.symm)]
    · intro r hr
      cases hparse.symm.trans hr
  · refine ⟨⟨?_, ?_⟩, ?_, ?_⟩
    · rintro ⟨t, ht⟩
      cases hparse.symm.trans ht
    · rintro ⟨⟨read, hread, nested⟩, stray⟩
      obtain ⟨a, b, split⟩ := rejects.breaks hread nested
      exact absurd split (stray a b)
    · intro t _ ht
      cases hparse.symm.trans ht
    · intro r' hr'
      cases hparse.symm.trans hr'
      exact rejects

end Template

end Stencil
