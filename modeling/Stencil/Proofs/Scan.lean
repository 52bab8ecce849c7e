-- Where the tags of a source are. A tag ends at the first closing braces behind its opening ones,
-- three braces are tried before two, and the source is cut at the leftmost tags, none of which is
-- looked at again from inside. The reader of tokens finds the same tags at the same places.
import Stencil.Template.Tree

namespace Stencil

/-! ## The first place of a mark -/

namespace Text

/-- The text before and behind the first place where a mark stands in a text. -/
structure IsFirst (mark before behind cs : List Char) : Prop where
  split : cs = before ++ mark ++ behind
  first : ∀ a b, cs = a ++ mark ++ b → before.length ≤ a.length

/-- There is only one first place. -/
theorem IsFirst.unique {mark before behind before' behind' cs : List Char}
    (h : IsFirst mark before behind cs) (h' : IsFirst mark before' behind' cs) :
    before = before' ∧ behind = behind' := by
  have le := h.first before' behind' h'.split
  have ge := h'.first before behind h.split
  have same : before ++ (mark ++ behind) = before' ++ (mark ++ behind') := by
    rw [← List.append_assoc, ← List.append_assoc, ← h.split, ← h'.split]
  obtain ⟨rfl, hb⟩ := List.append_inj same (by omega)
  exact ⟨rfl, List.append_cancel_left hb⟩

end Text

open Text (IsFirst)

namespace RawTag

theorem isFirst_of_until? {mark cs text rest : List Char}
    (h : until? mark cs = some (text, rest)) : IsFirst mark text rest cs := by
  refine ⟨eq_of_until? h, ?_⟩
  induction cs generalizing text rest with
  | nil =>
    unfold until? at h
    split at h
    · cases h
      intro a b _
      exact Nat.zero_le _
    · cases h
  | cons c cs ih =>
    unfold until? at h
    split at h
    · cases h
      intro a b _
      exact Nat.zero_le _
    · rename_i none
      obtain ⟨⟨t, r⟩, ht, he⟩ := Option.map_eq_some_iff.1 h
      cases he
      intro a b hab
      cases a with
      | nil =>
        have here := Text.behind?_eq_some.2 hab.symm
        cases here.symm.trans none
      | cons x a =>
        obtain ⟨_, hab⟩ := List.cons.inj hab
        exact Nat.succ_le_succ (ih ht a b hab)

theorem until?_eq_none {mark cs : List Char} (h : until? mark cs = none) (a b : List Char) :
    cs ≠ a ++ mark ++ b := by
  induction cs generalizing a with
  | nil =>
    unfold until? at h
    split at h
    · cases h
    · rename_i hm
      intro hab
      have empty : mark = [] := by
        cases a with
        | nil => exact (List.append_eq_nil_iff.1 hab.symm).1
        | cons => cases hab
      exact hm (List.isEmpty_iff.2 empty)
  | cons c cs ih =>
    unfold until? at h
    split at h
    · cases h
    · rename_i none
      intro hab
      cases a with
      | nil =>
        have here := Text.behind?_eq_some.2 hab.symm
        cases here.symm.trans none
      | cons x a => exact ih (Option.map_eq_none_iff.1 h) a (List.cons.inj hab).2

theorem until?_eq_some_iff {mark cs text rest : List Char} :
    until? mark cs = some (text, rest) ↔ IsFirst mark text rest cs := by
  refine ⟨isFirst_of_until?, fun h => ?_⟩
  cases hu : until? mark cs with
  | none => exact absurd h.split (until?_eq_none hu text rest)
  | some found =>
    obtain ⟨rfl, rfl⟩ := (isFirst_of_until? hu).unique h
    rfl

/-! ## Tags at the head of a text -/

/-- The tag stands at the head of a text: its opening braces, its content up to the first closing
ones, and behind them the rest. -/
def Encloses (t : RawTag) (cs rest : List Char) : Prop :=
  ∃ inside, cs = opening t.triple ++ inside ∧ IsFirst (closing t.triple) t.content rest inside

/-- The tag that is read at the head of a text: two braces enclose only what three do not. -/
structure Heads (t : RawTag) (cs rest : List Char) : Prop where
  encloses : t.Encloses cs rest
  triple : t.triple = false → ∀ (u : RawTag) (rest' : List Char), u.triple = true →
    ¬ u.Encloses cs rest'

theorem headWith?_eq_some_iff {triple : Bool} {cs rest : List Char} {t : RawTag} :
    headWith? triple cs = some (t, rest) ↔ t.triple = triple ∧ t.Encloses cs rest := by
  simp only [headWith?, Option.bind_eq_bind, Option.bind_eq_some_iff, Option.pure_def,
    Option.some.injEq, Prod.mk.injEq]
  constructor
  · rintro ⟨inside, hi, ⟨content, r⟩, hc, rfl, rfl⟩
    exact ⟨rfl, inside, (Text.behind?_eq_some.1 hi).symm, isFirst_of_until? hc⟩
  · rintro ⟨rfl, inside, rfl, hf⟩
    exact ⟨inside, Text.behind?_eq_some.2 rfl, (t.content, rest), until?_eq_some_iff.2 hf, rfl, rfl⟩

theorem head?_eq_some_iff {cs rest : List Char} {t : RawTag} :
    head? cs = some (t, rest) ↔ t.Heads cs rest := by
  unfold head?
  rw [Option.or_eq_some_iff]
  constructor
  · rintro (h | ⟨none, h⟩)
    · obtain ⟨triple, encloses⟩ := headWith?_eq_some_iff.1 h
      refine ⟨encloses, fun double => ?_⟩
      cases triple.symm.trans double
    · obtain ⟨_, encloses⟩ := headWith?_eq_some_iff.1 h
      refine ⟨encloses, fun _ u rest' hu hue => ?_⟩
      have some := headWith?_eq_some_iff.2 ⟨hu, hue⟩
      cases none.symm.trans some
  · rintro ⟨encloses, triple⟩
    cases ht : t.triple with
    | true => exact .inl (headWith?_eq_some_iff.2 ⟨ht, encloses⟩)
    | false =>
      refine .inr ⟨?_, headWith?_eq_some_iff.2 ⟨ht, encloses⟩⟩
      cases hu : headWith? true cs with
      | none => rfl
      | some found =>
        obtain ⟨hut, hue⟩ := headWith?_eq_some_iff.1 hu
        exact absurd hue (triple ht found.1 found.2 hut)

end RawTag

/-! ## Cuts -/

namespace Cut

/-- The cut at the leftmost tags that do not overlap: a tag is cut off where one stands, and a
character where none does. -/
inductive Leftmost : List Char → Cut → Prop
  | nil : Leftmost [] ⟨[], []⟩
  | tag {cs rest : List Char} {t : RawTag} {cut : Cut} :
    t.Heads cs rest → Leftmost rest cut → Leftmost cs ⟨[], (t, cut.text) :: cut.tags⟩
  | character {c : Char} {cs : List Char} {cut : Cut} :
    (∀ t rest, ¬ RawTag.Heads t (c :: cs) rest) → Leftmost cs cut →
    Leftmost (c :: cs) ⟨c :: cut.text, cut.tags⟩

theorem leftmost_of (cs : List Char) : Leftmost cs (of cs) := by
  fun_induction of cs with
  | case1 cs tag rest h _ cut ih => exact .tag (RawTag.head?_eq_some_iff.1 h) ih
  | case2 => exact .nil
  | case3 c cs h cut ih =>
    refine .character (fun t rest ht => ?_) ih
    cases h.symm.trans (RawTag.head?_eq_some_iff.2 ht)

/-- A source has only one cut at its leftmost tags. -/
theorem Leftmost.unique {cs : List Char} {cut cut' : Cut} (h : Leftmost cs cut)
    (h' : Leftmost cs cut') : cut = cut' := by
  induction h generalizing cut' with
  | nil =>
    cases h' with
    | nil => rfl
    | tag ht _ => cases RawTag.head?_eq_some_iff.2 ht
  | tag ht _ ih =>
    have head := RawTag.head?_eq_some_iff.2 ht
    cases h' with
    | nil => cases head
    | tag ht' hrest =>
      cases head.symm.trans (RawTag.head?_eq_some_iff.2 ht')
      rw [ih hrest]
    | character none _ => exact absurd ht (none _ _)
  | character none _ ih =>
    cases h' with
    | tag ht' _ => exact absurd ht' (none _ _)
    | character _ hrest => rw [ih hrest]

end Cut

/-! ## Places -/

/-- A tag and the place where it begins. -/
structure PlacedTag where
  tag : RawTag
  location : Location

namespace Cut

/-- The tags behind a text that begins at a place. -/
def placedFrom (here : Location) (text : List Char) : List (RawTag × List Char) → List PlacedTag
  | [] => []
  | (tag, next) :: more =>
    ⟨tag, here.after text⟩ :: placedFrom ((here.after text).after tag.source) next more

/-- The text behind the last tag, and the place where it begins. -/
def endFrom (here : Location) (text : List Char) :
    List (RawTag × List Char) → Location × List Char
  | [] => (here, text)
  | (tag, next) :: more => endFrom ((here.after text).after tag.source) next more

/-- The tags of a cut source, each with its place. -/
def placed (cut : Cut) (template : Option String) : List PlacedTag :=
  placedFrom (.start template) cut.text cut.tags

/-- What follows the last tag of a cut source. -/
def ending (cut : Cut) (template : Option String) : Location × List Char :=
  endFrom (.start template) cut.text cut.tags

/-- Where the text in front of the first tag is begun does not matter. -/
theorem placedFrom_append (here : Location) (a text : List Char)
    (tags : List (RawTag × List Char)) :
    placedFrom here (a ++ text) tags = placedFrom (here.after a) text tags := by
  cases tags with
  | nil => rfl
  | cons t more => simp only [placedFrom, Location.after_append]

/-- Text in front of the first tag stays with what follows the last one only if there is no tag. -/
theorem endFrom_append (here : Location) {a : List Char} (clean : '\x7b' ∉ a) (text : List Char)
    (tags : List (RawTag × List Char)) :
    ∃ b, '\x7b' ∉ b ∧ (endFrom here (a ++ text) tags).2 = b ++ (endFrom (here.after a) text tags).2 ∧
      (endFrom here (a ++ text) tags).1.after b = (endFrom (here.after a) text tags).1 := by
  cases tags with
  | nil => exact ⟨a, clean, rfl, rfl⟩
  | cons t more =>
    refine ⟨[], List.not_mem_nil, ?_, ?_⟩
    · simp only [endFrom, Location.after_append, List.nil_append]
    · simp only [endFrom, Location.after_append, Location.after_nil]

end Cut

/-! ## Tokens -/

namespace Token

theorem append_of_indent? {fresh : Bool} {text lead indent : List Char}
    (h : indent? fresh text = some (lead, indent)) : text = lead ++ indent := by
  unfold indent? splitLastLine at h
  simp only at h
  split at h
  · obtain ⟨rfl, rfl⟩ := Prod.mk.inj (Option.some.inj h)
    rw [← List.reverse_append, List.takeWhile_append_dropWhile, List.reverse_reverse]
  · cases h

/-- The end of a line holds no brace. -/
theorem append_of_trail? {last : Bool} {text trail next : List Char}
    (h : trail? last text = some (trail, next)) :
    text = trail ++ next ∧ '\x7b' ∉ trail := by
  simp only [trail?, Option.ite_none_right_eq_some, List.all_eq_true] at h
  obtain ⟨blank, h⟩ := h
  have clean : '\x7b' ∉ text.takeWhile (· ≠ '\n') := by
    intro hm
    have := blank _ hm
    revert this
    decide
  have whole := List.takeWhile_append_dropWhile (p := (· ≠ '\n')) (l := text)
  split at h
  · rename_i hd
    rw [hd] at whole
    split at h
    · obtain ⟨rfl, rfl⟩ := Prod.mk.inj (Option.some.inj h)
      exact ⟨whole.symm, clean⟩
    · cases h
  · rename_i c rest hd
    obtain ⟨rfl, rfl⟩ := Prod.mk.inj (Option.some.inj h)
    have hc : c = '\n' := by
      have nonempty : text.dropWhile (· ≠ '\n') ≠ [] := by
        rw [hd]
        exact List.cons_ne_nil _ _
      have ends := List.head_dropWhile_not (· ≠ '\n') nonempty
      simp only [hd, List.head_cons, decide_eq_false_iff_not, ne_eq, Decidable.not_not] at ends
      exact ends
    refine ⟨?_, ?_⟩
    · rw [List.append_assoc, List.singleton_append, ← hd]
      exact whole.symm
    · rw [List.mem_append, hc]
      rintro (hm | hm)
      · exact clean hm
      · revert hm
        decide

theorem append_of_around {fresh last : Bool} {text next lead indent trail next' : List Char}
    {tag : RawTag}
    (h : around fresh last text next tag = some ((lead, indent), (trail, next'))) :
    text = lead ++ indent ∧ next = trail ++ next' ∧ '\x7b' ∉ trail := by
  unfold around at h
  split at h
  · split at h
    · rename_i front back hf hb
      cases h
      exact ⟨append_of_indent? hf, append_of_trail? hb⟩
    · cases h
  · cases h

/-- A tag with its place, as a token has them. -/
def placed (t : Token) : PlacedTag := ⟨t.tag, t.location⟩

/-- The tokens are the tags of the cut, at their places: what falls away with a line only moves
from one text to another. -/
theorem placed_place (here : Location) (fresh : Bool) (text : List Char)
    (tags : List (RawTag × List Char)) :
    (place here fresh text tags).1.map placed = Cut.placedFrom here text tags := by
  induction tags generalizing here fresh text with
  | nil => rfl
  | cons t more ih =>
    obtain ⟨tag, next⟩ := t
    unfold place Cut.placedFrom
    split
    · rename_i lead indent trail next' h
      obtain ⟨rfl, rfl, _⟩ := append_of_around h
      simp only [List.map_cons, placed, ih, Location.after_append, Cut.placedFrom_append]
    · simp only [List.map_cons, placed, ih]

/-- What the reader of tokens leaves behind its last token is what follows the last tag, but for the
end of a line. -/
theorem rest_place (here : Location) (fresh : Bool) (text : List Char)
    (tags : List (RawTag × List Char)) :
    ∃ trail, '\x7b' ∉ trail ∧
      (Cut.endFrom here text tags).2 = trail ++ (place here fresh text tags).2 ∧
      (Cut.endFrom here text tags).1.after trail =
        (place here fresh text tags).1.foldl (fun l t => l.after t.source) here := by
  induction tags generalizing here fresh text with
  | nil => exact ⟨[], List.not_mem_nil, rfl, rfl⟩
  | cons t more ih =>
    obtain ⟨tag, next⟩ := t
    unfold place Cut.endFrom
    split
    · rename_i lead indent trail next' h
      obtain ⟨rfl, rfl, clean⟩ := append_of_around h
      obtain ⟨a, ha, rest, location⟩ :=
        ih (((here.after (lead ++ indent)).after tag.source).after trail) true next'
      obtain ⟨b, hb, rest', location'⟩ :=
        Cut.endFrom_append ((here.after (lead ++ indent)).after tag.source) clean next' more
      refine ⟨b ++ a, ?_, ?_, ?_⟩
      · rw [List.mem_append]
        rintro (hm | hm)
        · exact hb hm
        · exact ha hm
      · rw [rest', rest, List.append_assoc]
        simp only [Location.after_append]
      · rw [Location.after_append, location', location]
        simp only [List.foldl_cons, source, Location.after_append]
    · obtain ⟨trail, clean, rest, location⟩ := ih ((here.after text).after tag.source) false next
      refine ⟨trail, clean, rest, location.trans ?_⟩
      have whole : here.after (Token.source ⟨text, [], tag, [], here.after text⟩) =
          (here.after text).after tag.source := by
        simp [source]
      rw [List.foldl_cons, whole]

theorem placed_scan (template : Option String) (cs : List Char) :
    (scan template cs).1.map placed = (Cut.of cs).placed template :=
  placed_place _ _ _ _

end Token

/-! ## Stray braces -/

namespace Template

open Builder (strayBraces?)

theorem strayBraces?_eq (here : Location) (cs : List Char) :
    strayBraces? here cs = (RawTag.until? (RawTag.opening false) cs).map (here.after ·.1) := by
  fun_induction strayBraces? here cs with
  | case1 here rest => rfl
  | case2 here c cs hne ih =>
    have none : Text.behind? (RawTag.opening false) (c :: cs) = none := by
      cases hb : Text.behind? (RawTag.opening false) (c :: cs) with
      | none => rfl
      | some rest =>
        obtain ⟨rfl, rfl⟩ := List.cons.inj (Text.behind?_eq_some.1 hb)
        exact absurd rfl (hne rest rfl)
    rw [ih, RawTag.until?, none, Option.map_map]
    rfl
  | case3 here => rfl

/-- The first opening braces in a text, and their place. -/
theorem strayBraces?_eq_some_iff {here location : Location} {cs : List Char} :
    strayBraces? here cs = some location ↔
      ∃ a b, IsFirst (RawTag.opening false) a b cs ∧ location = here.after a := by
  rw [strayBraces?_eq, Option.map_eq_some_iff]
  constructor
  · rintro ⟨⟨a, b⟩, h, rfl⟩
    exact ⟨a, b, RawTag.isFirst_of_until? h, rfl⟩
  · rintro ⟨a, b, h, rfl⟩
    exact ⟨(a, b), RawTag.until?_eq_some_iff.2 h, rfl⟩

theorem strayBraces?_append (here : Location) {a : List Char} (clean : '\x7b' ∉ a)
    (cs : List Char) : strayBraces? here (a ++ cs) = strayBraces? (here.after a) cs := by
  induction a generalizing here with
  | nil => rfl
  | cons c a ih =>
    have hc : c ≠ '\x7b' := fun h => clean (h ▸ List.mem_cons_self)
    rw [List.cons_append, Location.after_cons, ← ih _ fun h => clean (List.mem_cons_of_mem _ h)]
    conv => lhs; unfold strayBraces?
    split
    · rename_i h
      exact absurd (List.cons.inj h).1 hc
    · rename_i h
      obtain ⟨rfl, rfl⟩ := List.cons.inj h
      rfl
    · rename_i h
      cases h

/-- The stray braces behind the last token are those behind the last tag. -/
theorem strayBraces?_scan (template : Option String) (cs : List Char) :
    strayBraces? (placeBehind template (Token.scan template cs).1) (Token.scan template cs).2 =
      strayBraces? ((Cut.of cs).ending template).1 ((Cut.of cs).ending template).2 := by
  obtain ⟨trail, clean, rest, location⟩ :=
    Token.rest_place (.start template) true (Cut.of cs).text (Cut.of cs).tags
  unfold Cut.ending
  rw [rest, strayBraces?_append _ clean, location]
  rfl

end Template

end Stencil
