-- The lines around the tags of a source. The reader of tokens decides from the text between two
-- tags whether a tag stands alone on its line; here this is said of the whole source, and the
-- tokens are shown to be the only ones that fit the tags of the source and its lines.
import Mathlib.Data.List.TakeWhile
import Stencil.Proofs.Scan

namespace Stencil

/-! ## Lines -/

namespace Text

/-- The line at the head of a text, without its end. -/
def firstLine (cs : List Char) : List Char := cs.takeWhile (· ≠ '\n')

/-- The line at the head of a text, with its end. -/
def wholeLine (cs : List Char) : List Char := cs.take ((firstLine cs).length + 1)

/-- The line that a text has begun. -/
def lastLine (cs : List Char) : List Char := (firstLine cs.reverse).reverse

/-- A new line begins behind the text. -/
def EndsLine (cs : List Char) : Prop := cs = [] ∨ ∃ a, cs = a ++ ['\n']

theorem firstLine_append_of_not_mem {a : List Char} (h : '\n' ∉ a) (b : List Char) :
    firstLine (a ++ b) = a ++ firstLine b := by
  have within : ∀ c ∈ a, decide (c ≠ '\n') = true := by
    intro c hc
    refine decide_eq_true ?_
    rintro rfl
    exact h hc
  exact List.takeWhile_append_of_pos within

theorem firstLine_of_not_mem {a : List Char} (h : '\n' ∉ a) : firstLine a = a := by
  have whole := firstLine_append_of_not_mem h []
  rw [List.append_nil] at whole
  rw [whole]
  exact List.append_nil a

theorem firstLine_append_of_mem {a : List Char} (h : '\n' ∈ a) (b : List Char) :
    firstLine (a ++ b) = firstLine a := by
  obtain ⟨x, y, rfl, hx⟩ := List.eq_append_cons_of_mem h
  rw [List.append_assoc, firstLine_append_of_not_mem hx, firstLine_append_of_not_mem hx]
  rfl

theorem wholeLine_append_of_mem {a : List Char} (h : '\n' ∈ a) (b : List Char) :
    wholeLine (a ++ b) = wholeLine a := by
  obtain ⟨x, y, rfl, hx⟩ := List.eq_append_cons_of_mem h
  rw [wholeLine, firstLine_append_of_mem h, firstLine_append_of_not_mem hx, wholeLine,
    firstLine_append_of_not_mem hx, List.take_append_of_le_length]
  simp [firstLine]

theorem wholeLine_append_cons {x : List Char} (hx : '\n' ∉ x) (y : List Char) :
    wholeLine (x ++ '\n' :: y) = x ++ ['\n'] := by
  have line : firstLine (x ++ '\n' :: y) = x :=
    (firstLine_append_of_not_mem hx _).trans (List.append_nil x)
  rw [wholeLine, line, List.take_append, List.take_of_length_le (Nat.le_succ _)]
  simp

theorem wholeLine_of_not_mem {cs : List Char} (h : '\n' ∉ cs) : wholeLine cs = cs := by
  rw [wholeLine, firstLine_of_not_mem h, List.take_of_length_le (Nat.le_succ _)]

theorem lastLine_append_of_not_mem (a : List Char) {b : List Char} (h : '\n' ∉ b) :
    lastLine (a ++ b) = lastLine a ++ b := by
  rw [lastLine, List.reverse_append, firstLine_append_of_not_mem (mt List.mem_reverse.1 h),
    List.reverse_append, List.reverse_reverse]
  rfl

theorem lastLine_append_of_mem (a : List Char) {b : List Char} (h : '\n' ∈ b) :
    lastLine (a ++ b) = lastLine b := by
  rw [lastLine, List.reverse_append, firstLine_append_of_mem (List.mem_reverse.2 h)]
  rfl

theorem lastLine_append_of_endsLine {a : List Char} (h : EndsLine a) (b : List Char) :
    lastLine (a ++ b) = lastLine b := by
  rcases h with rfl | ⟨a, rfl⟩
  · rfl
  · by_cases hb : '\n' ∈ b
    · exact lastLine_append_of_mem _ hb
    · have start : lastLine (a ++ ['\n']) = [] := by
        simp [lastLine, firstLine]
      rw [lastLine_append_of_not_mem _ hb, start, lastLine, firstLine_of_not_mem
        (mt List.mem_reverse.1 hb), List.reverse_reverse, List.nil_append]

end Text

open Text (firstLine wholeLine lastLine EndsLine)

/-! ## Tags alone on their lines -/

/-- A tag that only structures the template, with nothing but blanks beside it on its line; the
source is given in front of the tag and behind it. -/
structure RawTag.StandsAlone (t : RawTag) (before behind : List Char) : Prop where
  structural : t.isStructural = true
  front : ∀ c ∈ lastLine before, c = ' ' ∨ c = '\t'
  back : ∀ c ∈ firstLine behind, c = ' ' ∨ c = '\t' ∨ c = '\r'

/-- Only the line counts: whole lines in front and behind do not matter. -/
theorem RawTag.standsAlone_append_iff {t : RawTag} {a before behind b : List Char}
    (ha : EndsLine a) (hb : b = [] ∨ '\n' ∈ behind) :
    t.StandsAlone (a ++ before) (behind ++ b) ↔ t.StandsAlone before behind := by
  have back : firstLine (behind ++ b) = firstLine behind := by
    rcases hb with rfl | hb
    · rw [List.append_nil]
    · exact Text.firstLine_append_of_mem hb b
  constructor
  · rintro ⟨structural, front, behind⟩
    rw [Text.lastLine_append_of_endsLine ha] at front
    rw [back] at behind
    exact ⟨structural, front, behind⟩
  · rintro ⟨structural, front, behind⟩
    refine ⟨structural, ?_, ?_⟩
    · rw [Text.lastLine_append_of_endsLine ha]
      exact front
    · rw [back]
      exact behind

namespace Token

/-- The source of a row of tokens and of the text behind them. -/
def sourceOf (tokens : List Token) (rest : List Char) : List Char := tokens.flatMap source ++ rest

/-- A token takes the whole line of a tag that stands alone, and of any other tag nothing. -/
structure Extends (t : Token) (before behind : List Char) : Prop where
  alone : t.tag.StandsAlone before behind →
    t.indent = lastLine before ∧ t.trail = wholeLine behind
  beside : ¬ t.tag.StandsAlone before behind → t.indent = [] ∧ t.trail = []

/-- Every token is extended and placed as the source around it asks for. -/
inductive InPlace (template : Option String) : List Char → List Token → List Char → Prop
  | nil {before rest : List Char} : InPlace template before [] rest
  | cons {before rest : List Char} {t : Token} {ts : List Token} :
    t.Extends (before ++ t.lead ++ t.indent) (t.trail ++ sourceOf ts rest) →
    t.location = (Location.start template).after (before ++ t.lead ++ t.indent) →
    InPlace template (before ++ t.source) ts rest → InPlace template before (t :: ts) rest

/-- What falls away with a tag: blanks in front of it, and behind it blanks and at most one end of a
line. -/
structure TakesBlanks (t : Token) : Prop where
  front : ∀ c ∈ t.indent, c = ' ' ∨ c = '\t'
  back : ∃ blanks, (t.trail = blanks ∨ t.trail = blanks ++ ['\n']) ∧
    ∀ c ∈ blanks, c = ' ' ∨ c = '\t' ∨ c = '\r'

theorem Extends.takesBlanks {t : Token} {before behind : List Char} (h : t.Extends before behind) :
    t.TakesBlanks := by
  by_cases alone : t.tag.StandsAlone before behind
  · obtain ⟨hi, ht⟩ := h.alone alone
    refine ⟨hi ▸ alone.front, firstLine behind, ?_, alone.back⟩
    rw [ht]
    by_cases ends : '\n' ∈ behind
    · obtain ⟨x, y, rfl, hx⟩ := List.eq_append_cons_of_mem ends
      rw [Text.wholeLine_append_cons hx, Text.firstLine_append_of_not_mem hx]
      exact .inr (by simp [firstLine])
    · exact .inl (by rw [Text.wholeLine_of_not_mem ends, Text.firstLine_of_not_mem ends])
  · obtain ⟨hi, ht⟩ := h.beside alone
    refine ⟨?_, [], .inl ht, ?_⟩
    · rw [hi]
      simp
    · simp

theorem InPlace.takesBlanks {template : Option String} {before rest : List Char}
    {tokens : List Token} (h : InPlace template before tokens rest) :
    ∀ t ∈ tokens, t.TakesBlanks := by
  induction h with
  | nil => simp
  | cons fits _ _ ih =>
    intro u hu
    rcases List.mem_cons.1 hu with rfl | hu
    · exact fits.takesBlanks
    · exact ih u hu

/-- The cut at the tags of the tokens, with nothing extended. -/
def cut : List Token → List Char → Cut
  | [], rest => ⟨rest, []⟩
  | t :: ts, rest =>
    ⟨t.lead ++ t.indent, (t.tag, t.trail ++ (cut ts rest).text) :: (cut ts rest).tags⟩

theorem source_cut (tokens : List Token) (rest : List Char) :
    (cut tokens rest).source = sourceOf tokens rest := by
  induction tokens with
  | nil => simp [cut, Cut.source, sourceOf]
  | cons t ts ih =>
    simp only [Cut.source, sourceOf] at ih
    simp [cut, Cut.source, sourceOf, source, ← ih]

theorem sourceOf_of_cut {tokens : List Token} {rest text : List Char}
    {tags : List (RawTag × List Char)} (h : cut tokens rest = ⟨text, tags⟩) (trail : List Char) :
    trail ++ sourceOf tokens rest = Cut.source ⟨trail ++ text, tags⟩ := by
  rw [← source_cut, h]
  exact (List.append_assoc _ _ _).symm

/-! ## What the reader of tokens sees of a line -/

theorem splitLastLine_eq (cs : List Char) :
    splitLastLine cs = ((cs.reverse.dropWhile (· ≠ '\n')).reverse, lastLine cs) := rfl

theorem append_splitLastLine (cs : List Char) :
    (splitLastLine cs).1 ++ lastLine cs = cs := by
  rw [splitLastLine_eq, lastLine, firstLine, ← List.reverse_append,
    List.takeWhile_append_dropWhile, List.reverse_reverse]

/-- What is known of the source in front of a text: a line begins, or a tag ends there. -/
def Front (fresh : Bool) (before : List Char) : Prop :=
  if fresh then EndsLine before else ∃ a, before = a ++ ['\x7d']

theorem not_mem_firstLine (cs : List Char) : '\n' ∉ firstLine cs := by
  intro h
  have := List.mem_takeWhile_imp h
  simp at this

theorem not_mem_lastLine (cs : List Char) : '\n' ∉ lastLine cs :=
  mt List.mem_reverse.1 (not_mem_firstLine _)

/-- In front of the last line there is something if the line is not the first one. -/
theorem splitLastLine_isEmpty (cs : List Char) :
    (splitLastLine cs).1.isEmpty = decide ('\n' ∉ cs) := by
  have whole := append_splitLastLine cs
  by_cases h : '\n' ∈ cs
  · have some : (splitLastLine cs).1 ≠ [] := by
      intro hn
      rw [hn, List.nil_append] at whole
      rw [← whole] at h
      exact not_mem_lastLine cs h
    simp [h, some]
  · have all : lastLine cs = cs := by
      rw [lastLine, Text.firstLine_of_not_mem (mt List.mem_reverse.1 h), List.reverse_reverse]
    rw [all] at whole
    simp [h, List.append_left_eq_self.1 whole]

/-- The blanks in front of a tag begin its line, or there is something else on the line. -/
theorem indent?_cases {fresh : Bool} {before : List Char} (hb : Front fresh before)
    (text : List Char) :
    (∃ lead, indent? fresh text = some (lead, lastLine (before ++ text)) ∧
      text = lead ++ lastLine (before ++ text) ∧
      ∀ c ∈ lastLine (before ++ text), c = ' ' ∨ c = '\t') ∨
    indent? fresh text = none ∧ ¬ ∀ c ∈ lastLine (before ++ text), c = ' ' ∨ c = '\t' := by
  have opened : indent? fresh text =
      if (fresh = true ∨ '\n' ∈ text) ∧ ∀ c ∈ lastLine text, c = ' ' ∨ c = '\t' then
        some ((splitLastLine text).1, lastLine text) else none := by
    have empty := splitLastLine_isEmpty text
    unfold indent?
    change (if (fresh || !(splitLastLine text).1.isEmpty) &&
      (lastLine text).all (fun c => c == ' ' || c == '\t') then
        some ((splitLastLine text).1, lastLine text) else none) = _
    simp [empty]
  by_cases begun : fresh = true ∨ '\n' ∈ text
  · have line : lastLine (before ++ text) = lastLine text := by
      by_cases h : '\n' ∈ text
      · exact Text.lastLine_append_of_mem before h
      · obtain rfl := begun.resolve_right h
        exact Text.lastLine_append_of_endsLine hb text
    rw [opened, line]
    by_cases blank : ∀ c ∈ lastLine text, c = ' ' ∨ c = '\t'
    · exact .inl ⟨_, if_pos ⟨begun, blank⟩, (append_splitLastLine text).symm, blank⟩
    · exact .inr ⟨if_neg fun h => blank h.2, blank⟩
  · refine .inr ⟨opened.trans (if_neg fun h => begun h.1), fun blank => ?_⟩
    obtain ⟨stale, h⟩ := not_or.1 begun
    rw [Front, if_neg stale] at hb
    obtain ⟨a, rfl⟩ := hb
    rw [Text.lastLine_append_of_not_mem _ h, Text.lastLine_append_of_not_mem a (by simp)] at blank
    have brace := blank '\x7d' (by simp)
    revert brace
    decide

theorem all_blank_iff {cs : List Char} :
    cs.all (fun c => c == ' ' || c == '\t' || c == '\r') = true ↔
      ∀ c ∈ cs, c = ' ' ∨ c = '\t' ∨ c = '\r' := by
  simp [or_assoc]

theorem trail?_of_line {last : Bool} {x : List Char} (hx : '\n' ∉ x) (y : List Char) :
    trail? last (x ++ '\n' :: y) =
      if x.all (fun c => c == ' ' || c == '\t' || c == '\r') then some (x ++ ['\n'], y)
      else none := by
  have line : (x ++ '\n' :: y).takeWhile (· ≠ '\n') = x :=
    (Text.firstLine_append_of_not_mem hx _).trans (List.append_nil x)
  have next : (x ++ '\n' :: y).dropWhile (· ≠ '\n') = '\n' :: y := by
    have whole := List.takeWhile_append_dropWhile (p := (· ≠ '\n')) (l := x ++ '\n' :: y)
    rw [line] at whole
    exact List.append_cancel_left whole
  unfold trail?
  simp only [line, next]

theorem trail?_of_not_mem {last : Bool} {text : List Char} (h : '\n' ∉ text) :
    trail? last text =
      if text.all (fun c => c == ' ' || c == '\t' || c == '\r') && last then some (text, [])
      else none := by
  have line : text.takeWhile (· ≠ '\n') = text := Text.firstLine_of_not_mem h
  have next : text.dropWhile (· ≠ '\n') = [] := by
    have whole := List.takeWhile_append_dropWhile (p := (· ≠ '\n')) (l := text)
    rw [line] at whole
    exact List.append_right_eq_self.1 whole
  unfold trail?
  simp only [line, next]
  simp [ite_and]

/-- The end of the line behind a tag, or there is something else on the line. -/
theorem trail?_cases (text : List Char) (more : List (RawTag × List Char)) :
    (∃ next, trail? more.isEmpty text =
        some (wholeLine (Cut.source ⟨text, more⟩), next) ∧
      text = wholeLine (Cut.source ⟨text, more⟩) ++ next ∧
      (∀ c ∈ firstLine (Cut.source ⟨text, more⟩), c = ' ' ∨ c = '\t' ∨ c = '\r') ∧
      (more ≠ [] → ∃ line, wholeLine (Cut.source ⟨text, more⟩) = line ++ ['\n'])) ∨
    trail? more.isEmpty text = none ∧
      ¬ ∀ c ∈ firstLine (Cut.source ⟨text, more⟩), c = ' ' ∨ c = '\t' ∨ c = '\r' := by
  by_cases h : '\n' ∈ text
  · obtain ⟨x, y, rfl, hx⟩ := List.eq_append_cons_of_mem h
    have line : firstLine (Cut.source ⟨x ++ '\n' :: y, more⟩) = x := by
      rw [Cut.source, List.append_assoc, Text.firstLine_append_of_not_mem hx]
      exact List.append_nil x
    have taken : wholeLine (Cut.source ⟨x ++ '\n' :: y, more⟩) = x ++ ['\n'] := by
      rw [Cut.source, List.append_assoc, List.cons_append, Text.wholeLine_append_cons hx]
    rw [line, taken, trail?_of_line hx]
    by_cases blank : ∀ c ∈ x, c = ' ' ∨ c = '\t' ∨ c = '\r'
    · exact .inl ⟨y, if_pos (all_blank_iff.2 blank), by simp, blank, fun _ => ⟨x, rfl⟩⟩
    · exact .inr ⟨if_neg (mt all_blank_iff.1 blank), blank⟩
  · rw [trail?_of_not_mem h]
    cases more with
    | nil =>
      have whole : Cut.source ⟨text, []⟩ = text := List.append_nil text
      rw [whole, Text.wholeLine_of_not_mem h, Text.firstLine_of_not_mem h]
      by_cases blank : ∀ c ∈ text, c = ' ' ∨ c = '\t' ∨ c = '\r'
      · have taken := Bool.and_eq_true_iff.2 ⟨all_blank_iff.2 blank, rfl⟩
        exact .inl ⟨[], if_pos taken, (List.append_nil text).symm, blank, fun h => absurd rfl h⟩
      · refine .inr ⟨if_neg fun taken => ?_, blank⟩
        exact blank (all_blank_iff.1 (Bool.and_eq_true_iff.1 taken).1)
    | cons t more =>
      -- The next tag begins on the same line.
      refine .inr ⟨if_neg fun taken => ?_, fun blank => ?_⟩
      · exact Bool.false_ne_true (Bool.and_eq_true_iff.1 taken).2
      obtain ⟨⟨triple, content⟩, next⟩ := t
      have brace : '\x7b' ∈ firstLine (Cut.source ⟨text, (⟨triple, content⟩, next) :: more⟩) := by
        rw [Cut.source, Text.firstLine_append_of_not_mem h]
        cases triple <;> simp [RawTag.source, RawTag.opening, firstLine]
      have := blank _ brace
      revert this
      decide

/-- What is taken from the text around a tag, which is in front of other tags in the source. -/
theorem around_cases {fresh : Bool} {before : List Char} (hb : Front fresh before)
    (text next : List Char) (more : List (RawTag × List Char)) (tag : RawTag) :
    (∃ lead indent trail next', around fresh more.isEmpty text next tag =
        some ((lead, indent), (trail, next')) ∧ text = lead ++ indent ∧ next = trail ++ next' ∧
      tag.StandsAlone (before ++ text) (Cut.source ⟨next, more⟩) ∧
      indent = lastLine (before ++ text) ∧ trail = wholeLine (Cut.source ⟨next, more⟩) ∧
      (more ≠ [] → ∃ line, trail = line ++ ['\n'])) ∨
    around fresh more.isEmpty text next tag = none ∧
      ¬ tag.StandsAlone (before ++ text) (Cut.source ⟨next, more⟩) := by
  unfold around
  by_cases structural : tag.isStructural = true
  · rw [if_pos structural]
    rcases indent?_cases hb text with ⟨lead, hi, split, front⟩ | ⟨hi, front⟩
    · rcases trail?_cases next more with ⟨next', ht, split', back, ends⟩ | ⟨ht, back⟩
      · rw [hi, ht]
        have alone : tag.StandsAlone _ _ := ⟨structural, front, back⟩
        exact .inl ⟨lead, _, _, next', rfl, split, split', alone, rfl, rfl, ends⟩
      · rw [hi, ht]
        exact .inr ⟨rfl, fun alone => back alone.back⟩
    · rw [hi]
      exact .inr ⟨rfl, fun alone => front alone.front⟩
  · rw [if_neg structural]
    exact .inr ⟨rfl, fun alone => structural alone.structural⟩

/-! ## The tokens of a source -/

theorem exists_source_eq (tag : RawTag) : ∃ a, tag.source = a ++ ['\x7d'] := by
  cases h : tag.triple with
  | true => exact ⟨RawTag.opening true ++ tag.content ++ ['\x7d', '\x7d'], by
      simp [RawTag.source, h, RawTag.closing]⟩
  | false => exact ⟨RawTag.opening false ++ tag.content ++ ['\x7d'], by
      simp [RawTag.source, h, RawTag.closing]⟩

/-- The reader of tokens finds the tags of the cut, each extended as the source asks for. -/
theorem inPlace_of_place {template : Option String} {fresh : Bool} {before text rest : List Char}
    {tags : List (RawTag × List Char)} {tokens : List Token}
    (h : place ((Location.start template).after before) fresh text tags = (tokens, rest))
    (hb : tags ≠ [] → Front fresh before) :
    cut tokens rest = ⟨text, tags⟩ ∧ InPlace template before tokens rest := by
  induction tags generalizing fresh before text tokens with
  | nil =>
    cases h
    exact ⟨rfl, .nil⟩
  | cons t more ih =>
    obtain ⟨tag, next⟩ := t
    have front := hb (List.cons_ne_nil _ _)
    rw [place] at h
    rcases around_cases front text next more tag with
      ⟨lead, indent, trail, next', ha, rfl, rfl, alone, hi, ht, ends⟩ | ⟨ha, beside⟩
    · simp only [ha, ← Location.after_append] at h
      generalize hp : place _ true next' more = placed at h
      obtain ⟨rfl, rfl⟩ := Prod.mk.inj h
      have line : more ≠ [] → Front true (before ++ (lead ++ indent) ++ (tag.source ++ trail)) := by
        intro hm
        obtain ⟨line, rfl⟩ := ends hm
        exact .inr ⟨before ++ (lead ++ indent) ++ (tag.source ++ line), by simp⟩
      obtain ⟨hcut, inPlace⟩ := ih hp line
      refine ⟨by rw [cut, hcut], .cons ?_ ?_ ?_⟩
      · rw [sourceOf_of_cut hcut, List.append_assoc]
        exact ⟨fun _ => ⟨hi, ht⟩, fun h => absurd alone h⟩
      · rw [List.append_assoc]
      · simpa [source] using inPlace
    · simp only [ha, ← Location.after_append] at h
      generalize hp : place _ false next more = placed at h
      obtain ⟨rfl, rfl⟩ := Prod.mk.inj h
      have stale : more ≠ [] → Front false (before ++ text ++ tag.source) := by
        intro _
        obtain ⟨a, ha⟩ := exists_source_eq tag
        exact ⟨before ++ text ++ a, by simp [ha]⟩
      obtain ⟨hcut, inPlace⟩ := ih hp stale
      refine ⟨by simp [cut, hcut], .cons ?_ ?_ ?_⟩
      · rw [sourceOf_of_cut hcut, List.append_nil]
        exact ⟨fun h => absurd h beside, fun _ => ⟨rfl, rfl⟩⟩
      · rw [List.append_nil]
      · simpa [source] using inPlace

/-- Only one row of tokens is in place at the tags of a cut. -/
theorem InPlace.unique {template : Option String} {before : List Char} {ts ts' : List Token}
    {rest rest' : List Char} (h : InPlace template before ts rest)
    (h' : InPlace template before ts' rest') (same : cut ts rest = cut ts' rest') :
    ts = ts' ∧ rest = rest' := by
  induction h generalizing ts' with
  | nil =>
    cases h' with
    | nil => exact ⟨rfl, congrArg Cut.text same⟩
    | cons => cases same
  | @cons before rest t ts fits location _ ih =>
    cases h' with
    | nil => cases same
    | @cons _ _ t' ts' fits' location' inPlace' =>
      obtain ⟨lead, indent, tag, trail, place⟩ := t
      obtain ⟨lead', indent', tag', trail', place'⟩ := t'
      simp only [cut, Cut.mk.injEq, List.cons.injEq, Prod.mk.injEq] at same
      obtain ⟨front, ⟨rfl, back⟩, tags⟩ := same
      have behind : trail ++ sourceOf ts rest = trail' ++ sourceOf ts' rest' := by
        rw [sourceOf_of_cut rfl, sourceOf_of_cut rfl, back, tags]
      simp only [List.append_assoc] at fits fits' location location'
      rw [behind, front] at fits
      obtain ⟨rfl, rfl⟩ : indent = indent' ∧ trail = trail' := by
        by_cases alone : tag.StandsAlone (before ++ (lead' ++ indent'))
            (trail' ++ sourceOf ts' rest')
        · obtain ⟨hi, ht⟩ := fits.alone alone
          obtain ⟨hi', ht'⟩ := fits'.alone alone
          exact ⟨hi.trans hi'.symm, ht.trans ht'.symm⟩
        · obtain ⟨hi, ht⟩ := fits.beside alone
          obtain ⟨hi', ht'⟩ := fits'.beside alone
          exact ⟨hi.trans hi'.symm, ht.trans ht'.symm⟩
      obtain rfl := List.append_cancel_right front
      obtain rfl := location.trans location'.symm
      have next : cut ts rest = cut ts' rest' := by
        change Cut.mk (cut ts rest).text (cut ts rest).tags = ⟨(cut ts' rest').text, _⟩
        rw [List.append_cancel_left back, tags]
      obtain ⟨rfl, rfl⟩ := ih inPlace' next
      exact ⟨rfl, rfl⟩

/-- The tokens of a source are the ones that are in place at its leftmost tags. -/
theorem scan_eq_iff {template : Option String} {cs : List Char} {tokens : List Token}
    {rest : List Char} :
    scan template cs = (tokens, rest) ↔
      Cut.Leftmost cs (cut tokens rest) ∧ InPlace template [] tokens rest := by
  have found {ts : List Token} {r : List Char} (h : scan template cs = (ts, r)) :
      cut ts r = Cut.of cs ∧ InPlace template [] ts r :=
    inPlace_of_place h fun _ => .inl rfl
  constructor
  · intro h
    obtain ⟨hcut, inPlace⟩ := found h
    exact ⟨hcut ▸ Cut.leftmost_of cs, inPlace⟩
  · rintro ⟨leftmost, inPlace⟩
    obtain ⟨hcut, inPlace'⟩ := found rfl
    have same := hcut.trans (leftmost.unique (Cut.leftmost_of cs)).symm
    obtain ⟨ht, hr⟩ := inPlace'.unique inPlace same
    exact Prod.ext ht hr

end Token

end Stencil
