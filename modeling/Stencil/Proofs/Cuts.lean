-- Tags that are found wherever they stand. In a source that is read as a template, a tag depends
-- on its own source only, and no braces open in the text between tags; so its tokens are found
-- again in any row of such tokens.
import Stencil.Proofs.Spelling

namespace Stencil

namespace Text

variable {mark a b cs : List Char}

theorem IsFirst.append (h : IsFirst mark a b cs) (more : List Char) :
    IsFirst mark a (b ++ more) (cs ++ more) := by
  refine ⟨by rw [h.split, List.append_assoc], fun x y split => Nat.le_of_not_lt fun shorter => ?_⟩
  have length := congrArg List.length h.split
  simp only [List.length_append] at length
  -- The mark would already end within the text.
  have within : x ++ mark <+: cs := by
    refine List.prefix_of_prefix_length_le ⟨y, split.symm⟩ (List.prefix_append cs more) ?_
    rw [List.length_append]
    omega
  obtain ⟨z, hz⟩ := within
  exact absurd (h.first x z hz.symm) (Nat.not_le_of_lt shorter)

theorem IsFirst.behind_nil (h : IsFirst mark a b cs) : IsFirst mark a [] (a ++ mark) := by
  refine ⟨(List.append_nil _).symm, fun x y split => h.first x (y ++ b) ?_⟩
  rw [h.split, split, List.append_assoc]

theorem trim_cons {c : Char} (h : isBlank c = false) (cs : List Char) :
    ∃ more, trim (c :: cs) = c :: more := by
  have kept : trim (c :: cs) = (((cs.reverse ++ [c]).dropWhile isBlank)).reverse := by
    rw [trim, trimBy, List.dropWhile_cons_of_neg (by simp [h]), trimRightBy, List.reverse_cons]
  have last : ∃ front, (cs.reverse ++ [c]).dropWhile isBlank = front ++ [c] := by
    rw [List.dropWhile_append]
    split
    · exact ⟨[], by rw [List.dropWhile_cons_of_neg (by simp [h])]; rfl⟩
    · exact ⟨_, rfl⟩
  obtain ⟨front, hfront⟩ := last
  exact ⟨front.reverse, by rw [kept, hfront, List.reverse_append]; rfl⟩

end Text

open Text (IsFirst)

/-! ## Tags -/

namespace RawTag

variable {t : RawTag} {cs rest : List Char}

/-- A tag that is read wherever its source stands: it ends with its source, and the two braces of a
double tag are not the first of three. -/
structure IsFirm (t : RawTag) : Prop where
  encloses : t.Encloses t.source []
  double : t.triple = false → ∀ more, t.content ≠ '\x7b' :: more

theorem Encloses.source_nil (h : t.Encloses cs rest) :
    t.Encloses t.source [] ∧ cs = t.source ++ rest := by
  obtain ⟨inside, rfl, first⟩ := h
  refine ⟨⟨t.content ++ closing t.triple, ?_, first.behind_nil⟩, ?_⟩
  · rw [source, List.append_assoc]
  · rw [first.split, source]
    simp only [List.append_assoc]

theorem Encloses.append (h : t.Encloses t.source []) (rest : List Char) :
    t.Encloses (t.source ++ rest) rest := by
  obtain ⟨inside, split, first⟩ := h
  exact ⟨inside ++ rest, by rw [split, List.append_assoc], first.append rest⟩

/-- The content of a double tag follows its two braces, so a third one would belong to it. -/
theorem not_encloses_of_double (ht : t.triple = false) (hc : ∀ more, t.content ≠ '\x7b' :: more)
    {u : RawTag} (hu : u.triple = true) (rest rest' : List Char) :
    ¬ u.Encloses (t.source ++ rest) rest' := by
  rintro ⟨inside, split, _⟩
  rw [source, ht, hu] at split
  cases h : t.content with
  | nil => simp [h, opening, closing] at split
  | cons c more =>
    rw [h] at split
    have brace : c = '\x7b' := (List.cons.inj (List.cons.inj (List.cons.inj split).2).2).1
    exact hc more (h.trans (by rw [brace]))

theorem IsFirm.heads (h : t.IsFirm) (rest : List Char) : t.Heads (t.source ++ rest) rest := by
  refine ⟨h.encloses.append rest, fun double u rest' hu => ?_⟩
  exact not_encloses_of_double double (h.double double) hu rest rest'

theorem parse_brace (cs : List Char) (e : Expr) : Expr.parse ('\x7b' :: cs) ≠ .ok e := by
  have error : Lexeme.scan 0 ('\x7b' :: cs) = .error 0 := by
    rw [Lexeme.scan]
    rfl
  rw [Expr.parse, error]
  intro h
  cases h

/-- No tag with a meaning has a content that begins with a brace. -/
theorem Means.content_ne {m : Meaning} (h : t.Means m) (double : t.triple = false)
    (more : List Char) : t.content ≠ '\x7b' :: more := by
  intro hc
  obtain ⟨rest, trimmed⟩ := Text.trim_cons (c := '\x7b') rfl more
  rw [← hc] at trimmed
  cases h with
  | triple => cases double
  | plain hb _ he =>
    cases hb.symm.trans trimmed
    exact parse_brace _ _ he
  | ampersand hb | opening hb | inverted hb | closing hb | closingNamed hb | comment hb =>
    cases hb.symm.trans trimmed

theorem Heads.isFirm {m : Meaning} (h : t.Heads cs rest) (hm : t.Means m) :
    t.IsFirm ∧ cs = t.source ++ rest :=
  ⟨⟨h.encloses.source_nil.1, hm.content_ne⟩, h.encloses.source_nil.2⟩

/-- Opening braces with closing ones somewhere behind them head a tag. -/
theorem exists_heads {c : Char} (opened : opening false <+: c :: cs)
    (closed : closing false <:+: cs) :
    ∃ t rest, Heads t (c :: cs) rest := by
  obtain ⟨inside, hi⟩ := opened
  obtain rfl := (List.cons.inj hi).2
  obtain ⟨a, b, split⟩ : closing false <:+: inside := by
    rcases List.infix_cons_iff.1 closed with closed | closed
    · obtain ⟨more, h⟩ := closed
      exact absurd (List.cons.inj h).1 (by decide)
    · exact closed
  rw [← hi]
  cases hh : head? (opening false ++ inside) with
  | some found =>
    obtain ⟨t, rest⟩ := found
    exact ⟨t, rest, head?_eq_some_iff.1 hh⟩
  | none =>
    have double := (Option.or_eq_none_iff.1 hh).2
    have behind : Text.behind? (opening false) (opening false ++ inside) = some inside :=
      Text.behind?_eq_some.2 rfl
    cases hu : until? (closing false) inside with
    | none => exact absurd split.symm (until?_eq_none hu a b)
    | some found =>
      simp [headWith?, behind, hu] at double

theorem opening_prefix_source (t : RawTag) : opening false <+: t.source := by
  rw [source, List.append_assoc]
  refine List.IsPrefix.trans ?_ (List.prefix_append _ _)
  cases t.triple <;> simp [opening]

theorem closing_infix_source (t : RawTag) : closing false <:+: t.source := by
  refine List.IsInfix.trans ?_ (List.suffix_append _ _).isInfix
  cases t.triple
  · exact List.infix_rfl
  · exact (List.suffix_cons _ _).isInfix

end RawTag

/-! ## Cuts -/

namespace Cut

theorem Leftmost.source_eq {cs : List Char} {cut : Cut} (h : Leftmost cs cut) :
    cut.source = cs := by
  rw [h.unique (leftmost_of cs), source_of]

theorem not_heads {cs whole : List Char} (clean : ¬ RawTag.opening false <:+: cs)
    (within : cs <+: whole) (long : 1 < cs.length) (t : RawTag) (rest : List Char) :
    ¬ t.Heads whole rest := by
  intro h
  have opened : RawTag.opening false <+: whole := by
    rw [h.encloses.source_nil.2]
    exact t.opening_prefix_source.trans (List.prefix_append _ _)
  exact clean (List.prefix_of_prefix_length_le opened within long).isInfix

/-- Text without opening braces is not cut. -/
theorem leftmost_of_not_infix {text : List Char} (clean : ¬ RawTag.opening false <:+: text) :
    Leftmost text ⟨text, []⟩ := by
  induction text with
  | nil => exact .nil
  | cons c text ih =>
    have next := ih fun h => clean (h.trans (List.suffix_cons c text).isInfix)
    refine .character (fun t rest h => clean ?_) next
    rw [h.encloses.source_nil.2]
    exact (t.opening_prefix_source.trans (List.prefix_append _ _)).isInfix

variable {text cs : List Char} {cut : Cut}

/-- Text in which no braces open stays in front of what opens with a brace. -/
theorem Leftmost.behind_text (h : Leftmost ('\x7b' :: cs) cut)
    (clean : ¬ RawTag.opening false <:+: text ++ ['\x7b']) :
    Leftmost (text ++ '\x7b' :: cs) ⟨text ++ cut.text, cut.tags⟩ := by
  induction text with
  | nil => exact h
  | cons c text ih =>
    have next := ih fun h => clean (h.trans (List.suffix_cons c _).isInfix)
    have within : c :: text ++ ['\x7b'] <+: c :: (text ++ '\x7b' :: cs) := ⟨cs, by simp⟩
    exact .character (not_heads clean within (by simp)) next

/-- Text without a brace stays in front of anything. -/
theorem Leftmost.behind_plain (h : Leftmost cs cut) (plain : '\x7b' ∉ text) :
    Leftmost (text ++ cs) ⟨text ++ cut.text, cut.tags⟩ := by
  induction text with
  | nil => exact h
  | cons c text ih =>
    refine .character (fun t rest h => plain ?_) (ih fun h => plain (List.mem_cons_of_mem _ h))
    obtain ⟨more, hs⟩ := t.opening_prefix_source
    have split := h.encloses.source_nil.2
    rw [← hs] at split
    rw [(List.cons.inj split).1]
    exact List.mem_cons_self

theorem Leftmost.of_append {a : List Char} (h : Leftmost (a ++ cs) cut)
    (ht : cut.text = a ++ text) : Leftmost cs ⟨text, cut.tags⟩ := by
  induction a generalizing cut with
  | nil =>
    rw [List.nil_append] at ht
    rw [← ht]
    exact h
  | cons c a ih =>
    generalize hwhole : c :: a ++ cs = whole at h
    cases h with
    | nil => cases ht
    | tag => cases ht
    | character _ h =>
      cases hwhole
      have next := ih h (List.cons.inj ht).2
      exact next

/-- What a cut says of its first tag: the braces of the tag are the first that open. -/
theorem Leftmost.first {t : RawTag} {next : List Char} {more : List (RawTag × List Char)}
    (h : Leftmost cs cut) (ht : cut.tags = (t, next) :: more) :
    ¬ RawTag.opening false <:+: cut.text ++ ['\x7b'] ∧ ∃ cs' rest, t.Heads cs' rest ∧
      Leftmost rest ⟨next, more⟩ := by
  induction h with
  | nil => cases ht
  | tag heads rest =>
    cases ht
    have lone : ¬ RawTag.opening false <:+: ['\x7b'] := by
      decide
    exact ⟨lone, _, _, heads, rest⟩
  | @character c cs cut none h ih =>
    obtain ⟨clean, found⟩ := ih ht
    refine ⟨fun opened => ?_, found⟩
    rcases List.infix_cons_iff.1 opened with opened | opened
    · -- The closing braces of the tag would close what opens here.
      have whole : cut.text ++ (t.source ++ source ⟨next, more⟩) = cs := by
        have tags : cut.tags = (t, next) :: more := ht
        rw [← h.source_eq, source, source, tags, List.flatMap_cons, List.append_assoc]
      have brace : ['\x7b'] <+: t.source ++ source ⟨next, more⟩ := by
        refine List.IsPrefix.trans ⟨['\x7b'], rfl⟩ ?_
        exact t.opening_prefix_source.trans (List.prefix_append _ _)
      have within : c :: (cut.text ++ ['\x7b']) <+: c :: cs := by
        rw [← whole]
        exact List.cons_prefix_cons.2 ⟨rfl, (List.prefix_append_right_inj _).2 brace⟩
      have closed : RawTag.closing false <:+: cs := by
        rw [← whole]
        refine List.IsInfix.trans ?_ (List.suffix_append _ _).isInfix
        exact t.closing_infix_source.trans (List.prefix_append _ _).isInfix
      obtain ⟨u, rest, heads⟩ := RawTag.exists_heads (opened.trans within) closed
      exact none u rest heads
    · exact clean opened

end Cut

/-! ## Rows of tokens -/

namespace Token

/-- A token that is found wherever it stands: no braces open in its text, not even with those of its
tag, and none in the end of its line. -/
structure IsClean (t : Token) : Prop where
  firm : t.tag.IsFirm
  front : ¬ RawTag.opening false <:+: t.lead ++ t.indent ++ ['\x7b']
  back : '\x7b' ∉ t.trail

theorem IsClean.lead {t : Token} (h : t.IsClean) : ¬ RawTag.opening false <:+: t.lead := by
  refine fun opened => h.front (opened.trans ?_)
  rw [List.append_assoc]
  exact (List.prefix_append _ _).isInfix

variable {tokens : List Token} {rest : List Char}

/-- Clean tokens are those at the leftmost tags of their source. -/
theorem leftmost_cut (clean : ∀ t ∈ tokens, t.IsClean) (hr : ¬ RawTag.opening false <:+: rest) :
    Cut.Leftmost (sourceOf tokens rest) (cut tokens rest) := by
  induction tokens with
  | nil => exact Cut.leftmost_of_not_infix hr
  | cons t ts ih =>
    obtain ⟨firm, front, back⟩ := clean t List.mem_cons_self
    have behind := (ih fun u hu => clean u (List.mem_cons_of_mem _ hu)).behind_plain back
    have here : Cut.Leftmost (t.tag.source ++ (t.trail ++ sourceOf ts rest))
        ⟨[], (t.tag, t.trail ++ (cut ts rest).text) :: (cut ts rest).tags⟩ :=
      .tag (firm.heads _) behind
    obtain ⟨more, hs⟩ := t.tag.opening_prefix_source
    have split : sourceOf (t :: ts) rest =
        t.lead ++ t.indent ++ (t.tag.source ++ (t.trail ++ sourceOf ts rest)) := by
      simp [sourceOf, source]
    rw [← hs] at here
    have whole := here.behind_text front
    rw [split, ← hs]
    rw [List.append_nil] at whole
    exact whole

/-- The tokens at the leftmost tags of a source are clean if each of the tags has a meaning. -/
theorem isClean_of_leftmost {cs : List Char} (h : Cut.Leftmost cs (cut tokens rest))
    (means : ∀ t ∈ tokens, ∃ m, t.tag.Means m) (back : ∀ t ∈ tokens, '\x7b' ∉ t.trail) :
    ∀ t ∈ tokens, t.IsClean := by
  induction tokens generalizing cs with
  | nil => exact fun t ht => absurd ht List.not_mem_nil
  | cons t ts ih =>
    obtain ⟨front, cs', rest', heads, behind⟩ := h.first rfl
    obtain ⟨m, hm⟩ := means t List.mem_cons_self
    have split := behind.source_eq
    rw [Cut.source, List.append_assoc] at split
    rw [← split] at behind
    have next := ih (behind.of_append rfl) (fun u hu => means u (List.mem_cons_of_mem _ hu))
      fun u hu => back u (List.mem_cons_of_mem _ hu)
    intro u hu
    rcases List.mem_cons.1 hu with rfl | hu
    · exact ⟨(heads.isFirm hm).1, front, back u List.mem_cons_self⟩
    · exact next u hu

theorem TakesBlanks.brace_not_mem {t : Token} (h : t.TakesBlanks) : '\x7b' ∉ t.trail := by
  obtain ⟨blanks, ht, blank⟩ := h.back
  have plain : '\x7b' ∉ blanks := by
    intro brace
    have := blank _ brace
    revert this
    decide
  rcases ht with ht | ht
  · rw [ht]
    exact plain
  · rw [ht]
    simp [plain]

end Token

/-! ## Accepted sources -/

namespace Template

open Token (sourceOf)

theorem Spells.means {tokens : List Token} {rest : List Char} {nodes : Template}
    (h : Spells tokens rest nodes) : ∀ t ∈ tokens, ∃ m, t.tag.Means m := by
  induction h with
  | nil => simp
  | variableTag ht _ ih => exact List.forall_mem_cons.2 ⟨⟨_, ht⟩, ih⟩
  | comment ht _ ih => exact List.forall_mem_cons.2 ⟨⟨_, ht⟩, ih⟩
  | sectionTag ho hc _ _ _ ihContent ih =>
    refine List.forall_mem_cons.2 ⟨⟨_, ho⟩, List.forall_mem_append.2 ⟨ihContent, ?_⟩⟩
    exact List.forall_mem_cons.2 ⟨⟨_, hc⟩, ih⟩

/-- The tokens as which a source is read: they are in place, all of them are found wherever they
stand, no braces open behind them, and they spell the tree. -/
structure Reads (template : Option String) (tokens : List Token) (rest : List Char)
    (t : Template) : Prop where
  inPlace : Token.InPlace template [] tokens rest
  clean : ∀ u ∈ tokens, u.IsClean
  ending : ¬ RawTag.opening false <:+: rest
  spells : Spells tokens rest t

theorem Reads.leftmost {template : Option String} {tokens : List Token} {rest : List Char}
    {t : Template} (h : Reads template tokens rest t) :
    Cut.Leftmost (sourceOf tokens rest) (Token.cut tokens rest) :=
  Token.leftmost_cut h.clean h.ending

theorem Reads.scan {template : Option String} {tokens : List Token} {rest : List Char}
    {t : Template} (h : Reads template tokens rest t) :
    Token.scan template (sourceOf tokens rest) = (tokens, rest) :=
  Token.scan_eq_iff.2 ⟨h.leftmost, h.inPlace⟩

/-- A source is accepted if it is made of such tokens. -/
theorem parse_iff_reads {template : Option String} {source : String} {t : Template} :
    parse template source = .ok t ↔
      ∃ tokens rest, source.toList = sourceOf tokens rest ∧ Reads template tokens rest t := by
  constructor
  · intro ok
    obtain ⟨⟨tokens, rest⟩, scanned⟩ : ∃ found, Token.scan template source.toList = found :=
      ⟨_, rfl⟩
    obtain ⟨spells, ending⟩ := (parse_eq_ok_iff scanned).1 ok
    obtain ⟨leftmost, inPlace⟩ := Token.scan_eq_iff.1 scanned
    have back : ∀ u ∈ tokens, '\x7b' ∉ u.trail := fun u hu =>
      (inPlace.takesBlanks u hu).brace_not_mem
    refine ⟨tokens, rest, ?_, inPlace, ?_, ending, spells⟩
    · rw [← Token.source_cut, leftmost.source_eq]
    · exact Token.isClean_of_leftmost leftmost spells.means back
  · rintro ⟨tokens, rest, split, reads⟩
    have scanned : Token.scan template source.toList = (tokens, rest) := by
      rw [split]
      exact reads.scan
    exact (parse_eq_ok_iff scanned).2 ⟨reads.spells, reads.ending⟩

end Template

end Stencil
