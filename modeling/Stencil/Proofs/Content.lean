-- The content of sections. A section whose two tags stand alone on their lines holds whole lines,
-- so its source is read again as its content, further up; and it renders as its content does,
-- unless something looks at the places of tags.
import Stencil.Proofs.Coverage
import Stencil.Proofs.Elsewhere

namespace Stencil

open Text (firstLine wholeLine lastLine EndsLine)

/-! ## Ends of lines -/

namespace Text

/-- In front of the line that it has begun, a text ends a line. -/
theorem endsLine_of_lastLine {a b : List Char} (h : lastLine (a ++ b) = b) : EndsLine a := by
  have whole := Token.append_splitLastLine (a ++ b)
  rw [h, Token.splitLastLine_eq] at whole
  rw [← List.append_cancel_right whole]
  cases hd : (a ++ b).reverse.dropWhile (· ≠ '\n') with
  | nil => exact .inl rfl
  | cons c rest =>
    have nonempty : (a ++ b).reverse.dropWhile (· ≠ '\n') ≠ [] := by
      rw [hd]
      exact List.cons_ne_nil _ _
    have ends := List.head_dropWhile_not (· ≠ '\n') nonempty
    simp only [hd, List.head_cons, decide_eq_false_iff_not, ne_eq, Decidable.not_not] at ends
    exact .inr ⟨rest.reverse, by rw [List.reverse_cons, ends]⟩

/-- A line that is taken whole is ended, unless it is the last one. -/
theorem endsLine_wholeLine {cs : List Char} (h : '\n' ∈ cs) (a : List Char) :
    EndsLine (a ++ wholeLine cs) := by
  obtain ⟨x, y, rfl, hx⟩ := List.eq_append_cons_of_mem h
  rw [wholeLine_append_cons hx, ← List.append_assoc]
  exact .inr ⟨_, rfl⟩

end Text

/-- A tag alone on its line begins on another line than the tag in front of it. -/
theorem RawTag.StandsAlone.mem_newline {t u : RawTag} {a b behind : List Char}
    (h : u.StandsAlone (a ++ t.source ++ b) behind) : '\n' ∈ b := by
  refine Decidable.byContradiction fun line => ?_
  obtain ⟨x, hx⟩ := Token.exists_source_eq t
  have brace : '\x7d' ∈ lastLine (a ++ t.source ++ b) := by
    rw [Text.lastLine_append_of_not_mem _ line, hx, ← List.append_assoc,
      Text.lastLine_append_of_not_mem (b := ['\x7d']) _ (by decide)]
    simp
  have blank := h.front _ brace
  revert blank
  decide

namespace Template

open Token (sourceOf)

variable {template : Option String} {tokens before content behind : List Token} {rest : List Char}
  {t children : Template} {head : Head} {inverted : Bool} {inner : String}
  {opener closer : Token}

/-! ## Sections on lines of their own -/

/-- The opening and the closing tag of a section stand alone on their lines. -/
structure OnOwnLines (before : List Token) (opener : Token) (content : List Token) (closer : Token)
    (behind : List Token) (rest : List Char) : Prop where
  opens : opener.tag.StandsAlone (sourceOf before (opener.lead ++ opener.indent))
    (opener.trail ++ sourceOf (content ++ closer :: behind) rest)
  closes : closer.tag.StandsAlone
    (sourceOf (before ++ opener :: content) (closer.lead ++ closer.indent))
    (closer.trail ++ sourceOf behind rest)

/-- The content of such a section begins a line and ends a line. -/
theorem OnOwnLines.endsLine (own : OnOwnLines before opener content closer behind rest)
    (hopen : opener.Extends (sourceOf before (opener.lead ++ opener.indent))
      (opener.trail ++ sourceOf (content ++ closer :: behind) rest))
    (hclose : closer.Extends (sourceOf (before ++ opener :: content) (closer.lead ++ closer.indent))
      (closer.trail ++ sourceOf behind rest)) :
    EndsLine (sourceOf before opener.source) ∧ EndsLine (sourceOf content closer.lead) := by
  have front : sourceOf (before ++ opener :: content) (closer.lead ++ closer.indent) =
      sourceOf before (opener.lead ++ opener.indent) ++ opener.tag.source ++
        (opener.trail ++ sourceOf content (closer.lead ++ closer.indent)) := by
    simp [sourceOf, Token.source]
  have split : sourceOf (content ++ closer :: behind) rest =
      sourceOf content (closer.lead ++ closer.indent) ++
        (closer.tag.source ++ closer.trail ++ sourceOf behind rest) := by
    simp [sourceOf, Token.source]
  have line : '\n' ∈ opener.trail ++ sourceOf content (closer.lead ++ closer.indent) := by
    have closes := own.closes
    rw [front] at closes
    exact closes.mem_newline
  have first : EndsLine (sourceOf before opener.source) := by
    have whole := Text.endsLine_wholeLine (List.mem_append_left
      (closer.tag.source ++ closer.trail ++ sourceOf behind rest) line)
      (sourceOf before (opener.lead ++ opener.indent ++ opener.tag.source))
    rw [List.append_assoc opener.trail, ← split, ← (hopen.alone own.opens).2] at whole
    simpa [sourceOf, Token.source] using whole
  refine ⟨first, ?_⟩
  have indent := (hclose.alone own.closes).1
  have whole : sourceOf (before ++ opener :: content) (closer.lead ++ closer.indent) =
      sourceOf before opener.source ++ (sourceOf content closer.lead ++ closer.indent) := by
    simp [sourceOf, Token.source]
  rw [whole, Text.lastLine_append_of_endsLine first] at indent
  exact Text.endsLine_of_lastLine indent.symm

/-- The tags of a section and its content, in place where they stand. -/
theorem Enclosure.inPlace
    (found : Enclosure tokens head inverted children inner before opener content closer behind)
    (h : Token.InPlace template [] tokens rest) :
    opener.Extends (sourceOf before (opener.lead ++ opener.indent))
        (opener.trail ++ sourceOf (content ++ closer :: behind) rest) ∧
      Token.InPlace template (sourceOf before opener.source) content
        (closer.lead ++ (closer.indent ++ closer.tag.source ++ closer.trail ++
          sourceOf behind rest)) ∧
      closer.Extends (sourceOf (before ++ opener :: content) (closer.lead ++ closer.indent))
        (closer.trail ++ sourceOf behind rest) := by
  rw [found.split] at h
  obtain ⟨front, back⟩ := Token.inPlace_append_iff.1 h
  obtain ⟨_, inside⟩ := Token.inPlace_append_iff.1 front
  cases inside with
  | cons hopen _ inside =>
    cases back with
    | cons hclose _ _ =>
      refine ⟨?_, ?_, ?_⟩
      · simpa [sourceOf] using hopen
      · simpa [sourceOf, Token.source] using inside
      · simpa [sourceOf] using hclose

/-- The source of a section on lines of its own is read as its content, only further up. -/
theorem Reads.parse_inner (h : Reads template tokens rest t)
    (found : Enclosure tokens head inverted children inner before opener content closer behind)
    (own : OnOwnLines before opener content closer behind rest) :
    ∃ t', parse template inner = .ok t' ∧
      children = t'.below ((sourceOf before opener.source).count '\n') := by
  obtain ⟨hopen, inside, hclose⟩ := found.inPlace h.inPlace
  obtain ⟨begins, ends⟩ := own.endsLine hopen hclose
  have clean := h.clean
  rw [found.split, List.append_assoc] at clean
  obtain ⟨_, clean⟩ := List.forall_mem_append.1 clean
  obtain ⟨_, clean⟩ := List.forall_mem_cons.1 clean
  obtain ⟨content_clean, clean⟩ := List.forall_mem_append.1 clean
  obtain ⟨closer_clean, _⟩ := List.forall_mem_cons.1 clean
  have here := (Token.inPlace_append_lines ends _).1 inside
  obtain ⟨⟨ts, r⟩, scanned⟩ : ∃ found, Token.scan template inner.toList = found := ⟨_, rfl⟩
  obtain ⟨leftmost, there⟩ := Token.scan_eq_iff.1 scanned
  have below := there.behind_lines begins
  rw [List.append_nil] at below
  -- The tags of the source of the section are those of its content, so the tokens are, too.
  have same : Token.cut (ts.map (Token.below ((sourceOf before opener.source).count '\n'))) r =
      Token.cut content closer.lead := by
    have whole := Token.leftmost_cut content_clean closer_clean.lead
    rw [← found.source] at whole
    exact (Token.cut_relocate ts r).trans (leftmost.unique whole)
  obtain ⟨rfl, rfl⟩ := below.unique here same
  obtain ⟨t', rfl, spells⟩ := found.spells.of_relocate
  exact ⟨t', (parse_eq_ok_iff scanned).2 ⟨spells, closer_clean.lead⟩, rfl⟩

/-! ## Names of templates -/

/-- The name of a template is nothing but a part of its places. -/
theorem parse_named {source : String} (ok : parse template source = .ok t) (name : Option String) :
    parse name source = .ok (t.relocate (Location.named name)) := by
  obtain ⟨tokens, rest, split, reads⟩ := parse_iff_reads.1 ok
  refine parse_iff_reads.2 ⟨_, rest, split.trans (Token.sourceOf_relocate tokens rest).symm,
    reads.inPlace.named name, ?_, reads.ending, reads.spells.relocate _⟩
  intro u hu
  obtain ⟨v, hv, rfl⟩ := List.mem_map.1 hu
  exact (reads.clean v hv).relocate

end Template

/-! ## Rendering the source of a section -/

/-- Reads what a section holds as source, and renders that. -/
def Script.rereading {σ : Type} (template : Option String) (tag : Tag) (c : Context) : Script σ :=
  match Template.parse template tag.inner with
  | .ok t => .template t c fun s => .done (.rendering ⟨.plain s, true⟩)
  | .error r => .fail (.fault (.ofRejection r))

theorem Tag.Alike.inner {t u : Tag} (h : t.Alike u) : t.inner = u.inner := by
  have form := h.form
  unfold Tag.inner
  generalize t.form = f, u.form = g at form ⊢
  cases form <;> rfl

/-- The source of a section does not tell where the section stands. -/
theorem Script.rereading_alike {σ : Type} {veil : Veil σ} {t u : Tag} (h : t.Alike u)
    (template : Option String) (c : Context) :
    (rereading template t c).Alike veil (rereading template u c) := by
  unfold rereading
  rw [h.inner]
  split
  · exact .template c rfl fun s => .done _
  · exact .fail _ _

namespace Engine

variable {σ : Type} {e : Engine σ} {depth : Nat} {tag : Tag}

/-- Where scripts do not look at places, templates that differ in places only render alike, and they
leave the same outside. -/
theorem renders_alike_iff (blind : e.host.Blind .none) {t u : Template} (alike : t.Alike u)
    {c : Context} {w : World σ} {s : String} {o : Outside σ} :
    (∃ w', e.renderNodes depth t c w = (.done s, w') ∧ w'.outside = o) ↔
      ∃ w', e.renderNodes depth u c w = (.done s, w') ∧ w'.outside = o := by
  have one {t u : Template} (alike : t.Alike u) :
      (∃ w', e.renderNodes depth t c w = (.done s, w') ∧ w'.outside = o) →
        ∃ w', e.renderNodes depth u c w = (.done s, w') ∧ w'.outside = o := by
    rintro ⟨w', rendered, rfl⟩
    obtain ⟨v', rendered', beside⟩ :=
      renders_beside blind alike rendered (Outside.beside_none _) (Outside.spares_none _ _)
    exact ⟨v', rendered', beside.eq_of_none.symm⟩
  exact ⟨one alike, one alike.symm⟩

/-- A script that reads the source of a section again answers with the content of the section, if
the source is read as the content at other places. -/
theorem rereading_iff_content (blind : e.host.Blind .none) {template : Option String}
    {t : Template} (holds : tag.isSection = true) (ok : Template.parse template tag.inner = .ok t)
    (alike : t.Alike tag.children) {c : Context} {w : World σ} {r : Rendering} {o : Outside σ} :
    (∃ w', (Script.rereading template tag c).run (e.handlersAt depth tag) w =
        (.done (.rendering r), w') ∧ w'.outside = o) ↔
      ∃ w', contentOf tag (e.renderNodes depth) c w = (.done r, w') ∧ w'.outside = o := by
  have reread : (Script.rereading template tag c).run (e.handlersAt depth tag) =
      do return .rendering ⟨.plain (← e.renderNodes depth t c), true⟩ := by
    rw [Script.rereading, ok]
    rfl
  have shown : contentOf tag (e.renderNodes depth) c =
      do return ⟨.plain (← e.renderNodes depth tag.children c), true⟩ := by
    rw [contentOf, if_pos holds]
  rw [reread, shown]
  constructor
  · rintro ⟨w', done, ho⟩
    obtain ⟨s, w₁, rendered, same⟩ := Run.bind_eq_done.1 done
    cases same
    obtain ⟨v', rendered', ho'⟩ := (renders_alike_iff blind alike).1 ⟨w', rendered, ho⟩
    exact ⟨v', Run.bind_eq_done.2 ⟨s, v', rendered', rfl⟩, ho'⟩
  · rintro ⟨w', done, ho⟩
    obtain ⟨s, w₁, rendered, same⟩ := Run.bind_eq_done.1 done
    cases same
    obtain ⟨v', rendered', ho'⟩ := (renders_alike_iff blind alike).2 ⟨w', rendered, ho⟩
    exact ⟨v', Run.bind_eq_done.2 ⟨s, v', rendered', rfl⟩, ho'⟩

end Engine

namespace Template

open Token (sourceOf)

/-- What a section holds as source is read as its content, further up by some lines. As long as the
scripts of the host do not look at places, a script that reads it, under any name, and renders it in
the context of the tag answers with the content of the tag, and leaves the same outside. -/
structure Rereads (template : Option String) (lines : Nat) (children : Template) (inner : String) :
    Prop where
  parse : ∃ t, parse template inner = .ok t ∧ children = t.below lines
  renders : ∀ (σ : Type) (e : Engine σ) (tag : Tag) inverted name depth c w r o,
    e.host.Blind .none → tag.form = .sectionTag inverted children inner →
    ((∃ w', (Script.rereading name tag c).run (e.handlersAt depth tag) w =
        (.done (.rendering r), w') ∧ w'.outside = o) ↔
      ∃ w', Engine.contentOf tag (e.renderNodes depth) c w = (.done r, w') ∧ w'.outside = o)

/-- The source of every section whose tags stand alone on their lines is read as its content,
further up by the lines in front of it, and renders as its content. -/
theorem rereads_of_parse {template : Option String} {source : String} {t : Template}
    (ok : parse template source = .ok t) :
    ∃ tokens rest, Token.scan template source.toList = (tokens, rest) ∧
      (∀ head inverted children inner, .sectionTag head inverted children inner ∈ t.tags →
        ∃ before opener content closer behind,
          Enclosure tokens head inverted children inner before opener content closer behind) ∧
      ∀ head inverted children inner before opener content closer behind,
        Enclosure tokens head inverted children inner before opener content closer behind →
        OnOwnLines before opener content closer behind rest →
        sourceOf before opener.source ++ inner.toList <+: source.toList ∧
          Rereads template ((sourceOf before opener.source).count '\n') children inner := by
  obtain ⟨tokens, rest, split, reads⟩ := parse_iff_reads.1 ok
  refine ⟨tokens, rest, ?_, fun _ _ _ _ hn => reads.spells.exists_enclosure hn, ?_⟩
  · rw [split]
    exact reads.scan
  · intro head inverted children inner before opener content closer behind found own
    obtain ⟨t', ok', below⟩ := reads.parse_inner found own
    refine ⟨?_, ⟨t', ok', below⟩, ?_⟩
    · rw [split, found.split, found.source]
      exact ⟨closer.indent ++ closer.tag.source ++ closer.trail ++ sourceOf behind rest, by
        simp [sourceOf, Token.source]⟩
    · intro σ e tag inverted name depth c w r o blind form
      have holds : tag.isSection = true := by
        rw [Tag.isSection, form]
      have again : parse name tag.inner = .ok (t'.relocate (Location.named name)) := by
        rw [Tag.inner, form]
        exact parse_named ok' name
      have alike : (t'.relocate (Location.named name)).Alike tag.children := by
        rw [Tag.children, form, below]
        exact (alike_relocate _ t').trans (alike_relocate _ t').symm
      exact Engine.rereading_iff_content blind holds again alike

/-- A section on lines of its own. -/
def ownLines : String := "\x7b\x7b#s\x7d\x7d\n\x7b\x7bt\x7d\x7d\n\x7b\x7b/s\x7d\x7d"

def ownLinesInner : String := "\x7b\x7bt\x7d\x7d\n"

def ownLinesContent : Template := [.variableTag ⟨.name "t", ⟨2, 1, none⟩⟩ true, .text "\n"]

def ownLinesTag : Tag where
  id := 0
  head := ⟨.name "s", ⟨1, 1, none⟩⟩
  form := .sectionTag false ownLinesContent ownLinesInner

def ownLinesTree : Template := [.sectionTag ownLinesTag.head false ownLinesContent ownLinesInner]

def ownLinesOpener : Token := ⟨[], [], ⟨false, ['#', 's']⟩, ['\n'], ⟨1, 1, none⟩⟩

def ownLinesItem : Token := ⟨[], [], ⟨false, ['t']⟩, [], ⟨2, 1, none⟩⟩

def ownLinesCloser : Token := ⟨['\n'], [], ⟨false, ['/', 's']⟩, [], ⟨3, 1, none⟩⟩

theorem onOwnLines_ownLines :
    OnOwnLines [] ownLinesOpener [ownLinesItem] ownLinesCloser [] [] where
  opens := ⟨rfl, List.forall_mem_nil _, List.forall_mem_nil _⟩
  closes := ⟨rfl, List.forall_mem_nil _, List.forall_mem_nil _⟩

theorem scan_ownLines : Token.scan none ownLines.toList =
    ([ownLinesOpener, ownLinesItem, ownLinesCloser], []) := by
  cbv

theorem parse_ownLines : parse none ownLines = .ok ownLinesTree := by
  cbv

theorem enclosure_ownLines :
    Enclosure [ownLinesOpener, ownLinesItem, ownLinesCloser] ownLinesTag.head false ownLinesContent
      ownLinesInner [] ownLinesOpener [ownLinesItem] ownLinesCloser [] where
  split := rfl
  opens := by
    have body : Text.trim ['#', 's'] = '#' :: ['s'] := rfl
    exact .opening body (by cbv)
  place := rfl
  closes := by
    have body : Text.trim ['/', 's'] = '/' :: ['s'] := rfl
    have name : Expr.parse (Text.trim ['s']) = .ok (.name "s") := by
      cbv
    exact ⟨_, .closingNamed body (by decide) name, .inr rfl⟩
  spells := by
    have item : ownLinesItem.tag.Means (.variableTag (.name "t") true) :=
      .plain rfl (by decide) (by cbv)
    exact .variableTag item .nil
  source := rfl

/-- An engine whose renderables all read their sections again. -/
def rereadingEngine : Engine Unit where
  host := { Host.none with script := fun _ _ tag c => Script.rereading none tag c }
  policy := .fail
  escape := ContentType.html.escape

theorem rereads_ownLines :
    parse none ownLines = .ok ownLinesTree ∧
      OnOwnLines [] ownLinesOpener [ownLinesItem] ownLinesCloser [] [] ∧
      ∃ t w', parse none ownLinesInner = .ok t ∧ ownLinesContent = t.below 1 ∧
        (Script.rereading none ownLinesTag ⟨[⟨.mapping [(.text "t", .text "x")], []⟩]⟩).run
          (rereadingEngine.handlersAt 9 ownLinesTag) (World.start ()) =
            (.done (.rendering ⟨.plain "x\n", true⟩), w') := by
  have blind : rereadingEngine.host.Blind .none :=
    Host.blind_of_script fun _ _ _ _ c alike => Script.rereading_alike alike none c
  obtain ⟨tokens, rest, scanned, _, own⟩ := rereads_of_parse parse_ownLines
  obtain ⟨rfl, rfl⟩ := Prod.mk.inj (scan_ownLines.symm.trans scanned)
  obtain ⟨_, rereads⟩ := own _ _ _ _ _ _ _ _ _ enclosure_ownLines onOwnLines_ownLines
  obtain ⟨t, ok, below⟩ := rereads.parse
  obtain ⟨w₁, content⟩ : ∃ w₁, Engine.contentOf ownLinesTag (rereadingEngine.renderNodes 9)
      ⟨[⟨.mapping [(.text "t", .text "x")], []⟩]⟩ (World.start ()) =
      (.done ⟨.plain "x\n", true⟩, w₁) := ⟨_, rfl⟩
  obtain ⟨w', answer, _⟩ := (rereads.renders Unit rereadingEngine ownLinesTag false none 9 _ _ _ _
    blind rfl).2 ⟨w₁, content, rfl⟩
  exact ⟨parse_ownLines, onOwnLines_ownLines, t, w', ok, below, answer⟩

/-- An engine whose renderables show their tags. -/
def describingEngine : Engine Unit where
  host := { Host.none with script := fun _ _ tag _ => .done (.value (.text tag.describe)) }
  policy := .fail
  escape := ContentType.html.escape

def describingContext : Context :=
  ⟨[⟨.mapping [(.text "t", .deferred "describe" [])], []⟩]⟩

/-- Where a renderable shows the place of its tag, the source of a section on lines of its own does
not render as its content. -/
theorem describe_reread :
    parse none ownLines = .ok ownLinesTree ∧
      Token.scan none ownLines.toList = ([ownLinesOpener, ownLinesItem, ownLinesCloser], []) ∧
      OnOwnLines [] ownLinesOpener [ownLinesItem] ownLinesCloser [] [] ∧
      (∃ w', (Script.rereading none ownLinesTag describingContext).run
          (describingEngine.handlersAt 9 ownLinesTag) (World.start ()) =
            (.done (.rendering ⟨.plain "Tag(variable t at line 1)\n", true⟩), w')) ∧
      ∃ w', Engine.contentOf ownLinesTag (describingEngine.renderNodes 9) describingContext
        (World.start ()) = (.done ⟨.plain "Tag(variable t at line 2)\n", true⟩, w') := by
  have again : parse none ownLinesTag.inner =
      .ok [.variableTag ⟨.name "t", ⟨1, 1, none⟩⟩ true, .text "\n"] := by
    cbv
  refine ⟨parse_ownLines, scan_ownLines, onOwnLines_ownLines, ?_, ⟨_, rfl⟩⟩
  rw [Script.rereading, again]
  exact ⟨_, rfl⟩

end Template

end Stencil
