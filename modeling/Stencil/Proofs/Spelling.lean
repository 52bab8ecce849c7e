-- How tokens spell a tree. A row of tokens spells nodes one after the other, and a section is spelt
-- by its opening tag, the tokens of its content and its closing tag; the tree that is read from a
-- source is the one that the tokens of the source spell.
import Stencil.Proofs.Lines
import Stencil.Proofs.Parsing

namespace Stencil

namespace Template

open Token (sourceOf)

/-! ## Tokens and trees -/

/-- A text as a node, unless it is empty. -/
def textNodes (cs : List Char) : List Node := if cs.isEmpty then [] else [.text (String.ofList cs)]

/-- The nodes that a row of tokens spells with the text behind it. -/
inductive Spells : List Token → List Char → Template → Prop
  | nil {rest : List Char} : Spells [] rest (textNodes rest)
  | variableTag {t : Token} {ts : List Token} {rest : List Char} {e : Expr} {escaped : Bool}
    {nodes : Template} : t.tag.Means (.variableTag e escaped) → Spells ts rest nodes →
    Spells (t :: ts) rest (textNodes t.lead ++ .variableTag ⟨e, t.location⟩ escaped :: nodes)
  | comment {t : Token} {ts : List Token} {rest : List Char} {nodes : Template} :
    t.tag.Means .comment → Spells ts rest nodes → Spells (t :: ts) rest (textNodes t.lead ++ nodes)
  | sectionTag {opener closer : Token} {inner ts : List Token} {rest : List Char} {e : Expr}
    {inverted : Bool} {name : Option Expr} {children nodes : Template} :
    opener.tag.Means (.opening e inverted) → closer.tag.Means (.closing name) →
    name = none ∨ name = some e → Spells inner closer.lead children → Spells ts rest nodes →
    Spells (opener :: inner ++ closer :: ts) rest (textNodes opener.lead ++
      .sectionTag ⟨e, opener.location⟩ inverted children
        (String.ofList (sourceOf inner closer.lead)) :: nodes)

/-! ## The builder follows the spelling -/

namespace Builder

variable {b : Builder} {t : Token}

theorem nodes_addText (b : Builder) (cs : List Char) :
    (b.addText cs).nodes = (textNodes cs).reverse ++ b.nodes := by
  unfold addText textNodes
  split
  · rfl
  · rfl

theorem inner_addText (b : Builder) (cs : List Char) : (b.addText cs).inner = b.inner := by
  unfold addText
  split
  · rfl
  · rfl

theorem expression_of_parse {text : List Char} {e : Expr} (h : Expr.parse text = .ok e)
    (here : Location) : expression text here = .ok e := by
  rw [expression, h]
  rfl

theorem addTag_variableTag {e : Expr} {escaped : Bool}
    (h : t.tag.Means (.variableTag e escaped)) :
    b.addTag t = .ok { b with
      nodes := .variableTag ⟨e, t.location⟩ escaped :: b.nodes
      inner := t.source.reverse ++ b.inner } := by
  have hr := role_means_of_means h
  unfold addTag
  cases hrole : Role.of t.tag with
  | variableTag escaped text =>
    rw [hrole] at hr
    obtain ⟨e, he, hm⟩ := hr
    cases hm
    simp only [expression_of_parse he]
    rfl
  | _ =>
    rw [hrole] at hr
    simp [Role.Means] at hr

theorem addTag_comment (h : t.tag.Means .comment) :
    b.addTag t = .ok { b with inner := t.source.reverse ++ b.inner } := by
  have hr := role_means_of_means h
  unfold addTag
  cases hrole : Role.of t.tag with
  | comment => rfl
  | _ =>
    rw [hrole] at hr
    simp [Role.Means] at hr

theorem addTag_opening {e : Expr} {inverted : Bool} (h : t.tag.Means (.opening e inverted)) :
    b.addTag t = .ok ⟨[], [],
      ⟨⟨e, t.location⟩, inverted, b.nodes, t.source.reverse ++ b.inner⟩ :: b.opened⟩ := by
  have hr := role_means_of_means h
  unfold addTag
  cases hrole : Role.of t.tag with
  | opening inverted text =>
    rw [hrole] at hr
    obtain ⟨e, he, hm⟩ := hr
    cases hm
    simp only [expression_of_parse he]
    rfl
  | _ =>
    rw [hrole] at hr
    simp [Role.Means] at hr

theorem addTag_closing {nodes : List Node} {inner : List Char} {s : OpenSection}
    {outer : List OpenSection} {name : Option Expr} (h : t.tag.Means (.closing name))
    (hname : name = none ∨ name = some s.head.expression) :
    addTag ⟨nodes, inner, s :: outer⟩ t = .ok ⟨.sectionTag s.head s.inverted nodes.reverse
      (String.ofList (inner.reverse ++ t.lead)) :: s.before,
      t.source.reverse ++ (inner ++ s.innerBefore), outer⟩ := by
  have hr := role_means_of_means h
  unfold addTag
  cases hrole : Role.of t.tag with
  | closing text =>
    rw [hrole] at hr
    simp only [close]
    rcases hr with ⟨rfl, _⟩ | ⟨some, e, he, hm⟩
    · rfl
    · cases hm
      obtain rfl := Option.some.inj (hname.resolve_left (Option.some_ne_none e))
      have nonempty : text.isEmpty = false := by
        simpa using some
      simp only [nonempty, Bool.not_false, if_true, expression_of_parse he]
      exact if_neg (not_not_intro rfl)
  | _ =>
    rw [hrole] at hr
    simp [Role.Means] at hr

end Builder

/-- Whatever stands in front of a row of tokens, the builder adds the nodes that they spell. -/
theorem Spells.run {tokens : List Token} {rest : List Char} {nodes : Template}
    (h : Spells tokens rest nodes) (b : Builder) :
    ∃ b', tokens.foldlM Builder.step b = .ok b' ∧ b'.opened = b.opened ∧
      b'.inner = (tokens.flatMap Token.source).reverse ++ b.inner ∧
      (b'.addText rest).nodes = nodes.reverse ++ b.nodes := by
  induction h generalizing b with
  | nil => exact ⟨b, rfl, rfl, rfl, b.nodes_addText _⟩
  | @variableTag t ts rest e escaped nodes ht _ ih =>
    have step := Builder.addTag_variableTag (b := b.addText t.lead) ht
    obtain ⟨b', run, opened, inner, hnodes⟩ := ih { b.addText t.lead with
      nodes := .variableTag ⟨e, t.location⟩ escaped :: (b.addText t.lead).nodes
      inner := t.source.reverse ++ (b.addText t.lead).inner }
    refine ⟨b', ?_, ?_, ?_, ?_⟩
    · rw [List.foldlM_cons, Builder.step, step]
      exact run
    · rw [opened, Builder.opened_addText]
    · rw [inner, Builder.inner_addText]
      simp
    · rw [hnodes, Builder.nodes_addText]
      simp
  | @comment t ts rest nodes ht _ ih =>
    have step := Builder.addTag_comment (b := b.addText t.lead) ht
    obtain ⟨b', run, opened, inner, hnodes⟩ := ih { b.addText t.lead with
      inner := t.source.reverse ++ (b.addText t.lead).inner }
    refine ⟨b', ?_, ?_, ?_, ?_⟩
    · rw [List.foldlM_cons, Builder.step, step]
      exact run
    · rw [opened, Builder.opened_addText]
    · rw [inner, Builder.inner_addText]
      simp
    · rw [hnodes, Builder.nodes_addText]
      simp
  | @sectionTag opener closer content ts rest e inverted name children nodes ho hc hname _ _
      ihContent ih =>
    -- The content is read with the section open, and then the section closes with its nodes.
    let s : OpenSection := ⟨⟨e, opener.location⟩, inverted, (b.addText opener.lead).nodes,
      opener.source.reverse ++ (b.addText opener.lead).inner⟩
    have first : (b.addText opener.lead).addTag opener = .ok ⟨[], [], s :: b.opened⟩ := by
      rw [← Builder.opened_addText b opener.lead]
      exact Builder.addTag_opening ho
    obtain ⟨c, runContent, opened, inner, hchildren⟩ := ihContent ⟨[], [], s :: b.opened⟩
    have filled : c.addText closer.lead =
        ⟨children.reverse, (content.flatMap Token.source).reverse, s :: b.opened⟩ := by
      change Builder.mk (c.addText closer.lead).nodes (c.addText closer.lead).inner
        (c.addText closer.lead).opened = _
      rw [hchildren, Builder.inner_addText, inner, Builder.opened_addText, opened, List.append_nil,
        List.append_nil]
    have closed : Builder.addTag ⟨children.reverse, (content.flatMap Token.source).reverse,
        s :: b.opened⟩ closer = .ok _ := Builder.addTag_closing hc hname
    rw [List.reverse_reverse, List.reverse_reverse] at closed
    obtain ⟨b', run, opened, inner, hnodes⟩ := ih ⟨.sectionTag s.head s.inverted children
      (String.ofList (sourceOf content closer.lead)) :: s.before, closer.source.reverse ++
        ((content.flatMap Token.source).reverse ++ s.innerBefore), b.opened⟩
    refine ⟨b', ?_, opened, ?_, ?_⟩
    · rw [List.cons_append, List.foldlM_cons, Builder.step, first]
      change (content ++ closer :: ts).foldlM Builder.step _ = _
      rw [List.foldlM_append, runContent]
      change (closer :: ts).foldlM Builder.step c = _
      rw [List.foldlM_cons, Builder.step, filled, closed]
      exact run
    · rw [inner]
      simp [s, Builder.inner_addText]
    · rw [hnodes]
      simp [s, Builder.nodes_addText]

/-! ## The tokens of a source -/

theorem means_of_placed {r : ReadTag} {t : Token} {m : Meaning} (hp : r.placed = t.placed)
    (hm : r.meaning = m) : t.tag.Means m := by
  have means := r.means
  rw [hp, hm] at means
  exact means

/-- Tags that nest spell a tree. -/
theorem exists_spells {read : List ReadTag} {ms : List Meaning} (h : Nested ms)
    (hm : read.map (·.meaning) = ms) {tokens : List Token}
    (ht : read.map (·.placed) = tokens.map Token.placed) (rest : List Char) :
    ∃ nodes, Spells tokens rest nodes := by
  induction h generalizing read tokens rest with
  | nil =>
    obtain rfl := List.map_eq_nil_iff.1 hm
    obtain rfl := List.map_eq_nil_iff.1 ht.symm
    exact ⟨_, .nil⟩
  | variableTag _ ih =>
    obtain ⟨r, read, rfl, hr, hread⟩ := List.map_eq_cons_iff.1 hm
    obtain ⟨t, ts, rfl, hp, hts⟩ := List.map_eq_cons_iff.1 ht.symm
    obtain ⟨nodes, spells⟩ := ih hread hts.symm rest
    exact ⟨_, .variableTag (means_of_placed hp.symm hr) spells⟩
  | comment _ ih =>
    obtain ⟨r, read, rfl, hr, hread⟩ := List.map_eq_cons_iff.1 hm
    obtain ⟨t, ts, rfl, hp, hts⟩ := List.map_eq_cons_iff.1 ht.symm
    obtain ⟨nodes, spells⟩ := ih hread hts.symm rest
    exact ⟨_, .comment (means_of_placed hp.symm hr) spells⟩
  | sectionTag hname _ _ ihContent ih =>
    obtain ⟨front, back, rfl, hfront, hback⟩ := List.map_eq_append_iff.1 hm
    obtain ⟨opener, content, rfl, hopener, hcontent⟩ := List.map_eq_cons_iff.1 hfront
    obtain ⟨closer, behind, rfl, hcloser, hbehind⟩ := List.map_eq_cons_iff.1 hback
    rw [List.map_append] at ht
    obtain ⟨ts, us, rfl, hts, hus⟩ := List.map_eq_append_iff.1 ht.symm
    obtain ⟨t, ts, rfl, hp, hts⟩ := List.map_eq_cons_iff.1 hts
    obtain ⟨u, us, rfl, hq, hus⟩ := List.map_eq_cons_iff.1 hus
    obtain ⟨children, inside⟩ := ihContent hcontent hts.symm u.lead
    obtain ⟨nodes, outside⟩ := ih hbehind hus.symm rest
    exact ⟨_, .sectionTag (means_of_placed hp.symm hopener) (means_of_placed hq.symm hcloser) hname
      inside outside⟩

/-- Tokens that spell a tree are read as this tree, unless braces open behind the last of them. -/
theorem Spells.parse_eq {template : Option String} {source : String} {tokens : List Token}
    {rest : List Char} {nodes : Template} (h : Spells tokens rest nodes)
    (scanned : Token.scan template source.toList = (tokens, rest)) :
    parse template source = (Builder.strayBraces? (placeBehind template tokens) rest).elim
      (.ok nodes) fun location => .error ⟨.unclosedTag, location⟩ := by
  obtain ⟨b, run, opened, _, read⟩ := h.run Builder.start
  rw [parse, scanned]
  change (tokens.foldlM Builder.step Builder.start >>= fun b => b.finish _ rest) = _
  rw [run]
  change b.finish _ rest = _
  rw [Builder.finish_of_closed opened, read, List.reverse_append, List.reverse_reverse]
  rfl

theorem strayBraces?_eq_none_iff {here : Location} {cs : List Char} :
    Builder.strayBraces? here cs = none ↔ ¬ RawTag.opening false <:+: cs := by
  rw [strayBraces?_eq, Option.map_eq_none_iff]
  constructor
  · rintro none ⟨a, b, split⟩
    exact RawTag.until?_eq_none none a b split.symm
  · intro clean
    cases hu : RawTag.until? (RawTag.opening false) cs with
    | none => rfl
    | some found =>
      obtain ⟨a, b⟩ := found
      exact absurd ⟨a, b, (RawTag.eq_of_until? hu).symm⟩ clean

/-- A source is read as the tree that its tokens spell. -/
theorem parse_eq_ok_iff {template : Option String} {source : String} {t : Template}
    {tokens : List Token} {rest : List Char}
    (scanned : Token.scan template source.toList = (tokens, rest)) :
    parse template source = .ok t ↔
      Spells tokens rest t ∧ ¬ RawTag.opening false <:+: rest := by
  constructor
  · intro ok
    rcases parse_cases template source with ⟨_, read, _, placed, nested, _⟩ | ⟨r, error, _⟩
    · rw [← Token.placed_scan, scanned] at placed
      obtain ⟨nodes, spells⟩ := exists_spells nested rfl placed rest
      have result := spells.parse_eq scanned
      rw [ok] at result
      cases stray : Builder.strayBraces? (placeBehind template tokens) rest with
      | none =>
        rw [stray] at result
        cases result
        exact ⟨spells, strayBraces?_eq_none_iff.1 stray⟩
      | some location =>
        rw [stray] at result
        cases result
    · cases ok.symm.trans error
  · rintro ⟨spells, clean⟩
    rw [spells.parse_eq scanned, strayBraces?_eq_none_iff.2 clean]
    rfl

end Template

end Stencil
