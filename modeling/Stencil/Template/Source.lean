-- Cutting a source at its tags. A tag is what two braces enclose on each side, or three; the
-- content of a tag ends at the first closing braces, and three braces are tried before two.
import Stencil.Text.Mark

namespace Stencil

/-- A tag as the source writes it. -/
structure RawTag where
  triple : Bool
  content : List Char
  deriving DecidableEq, Repr

namespace RawTag

def opening (triple : Bool) : List Char :=
  if triple then ['\x7b', '\x7b', '\x7b'] else ['\x7b', '\x7b']

def closing (triple : Bool) : List Char :=
  if triple then ['\x7d', '\x7d', '\x7d'] else ['\x7d', '\x7d']

/-- The source of a tag, with its braces. -/
def source (t : RawTag) : List Char := opening t.triple ++ t.content ++ closing t.triple

/-- The text before the first place where a mark stands, and the text behind the mark. -/
def until? (mark : List Char) : List Char → Option (List Char × List Char)
  | [] => if mark.isEmpty then some ([], []) else none
  | c :: cs =>
    match Text.behind? mark (c :: cs) with
    | some rest => some ([], rest)
    | none => (until? mark cs).map fun (text, rest) => (c :: text, rest)

/-- A tag with this many braces at the head of a text, and the text behind it. -/
def headWith? (triple : Bool) (cs : List Char) : Option (RawTag × List Char) := do
  let inside ← Text.behind? (opening triple) cs
  let (content, rest) ← until? (closing triple) inside
  return (⟨triple, content⟩, rest)

/-- The tag at the head of a text, and the text behind it. -/
def head? (cs : List Char) : Option (RawTag × List Char) :=
  (headWith? true cs).or (headWith? false cs)

theorem eq_of_until? {mark cs text rest : List Char} (h : until? mark cs = some (text, rest)) :
    cs = text ++ mark ++ rest := by
  induction cs generalizing text rest with
  | nil =>
    cases mark with
    | nil => simp_all [until?]
    | cons => simp [until?] at h
  | cons c cs ih =>
    unfold until? at h
    split at h
    · next r hr =>
      obtain ⟨rfl, rfl⟩ : [] = text ∧ r = rest := by simpa using h
      simpa using (Text.behind?_eq_some.1 hr).symm
    · obtain ⟨⟨t, r⟩, ht, he⟩ := Option.map_eq_some_iff.1 h
      obtain ⟨rfl, rfl⟩ : c :: t = text ∧ r = rest := by simpa using he
      simp [ih ht]

theorem eq_of_headWith? {triple : Bool} {cs rest : List Char} {t : RawTag}
    (h : headWith? triple cs = some (t, rest)) : t.triple = triple ∧ cs = t.source ++ rest := by
  simp only [headWith?, Option.bind_eq_bind, Option.bind_eq_some_iff, Option.pure_def,
    Option.some.injEq, Prod.mk.injEq] at h
  obtain ⟨inside, hi, ⟨content, r⟩, hc, rfl, rfl⟩ := h
  refine ⟨rfl, ?_⟩
  rw [← Text.behind?_eq_some.1 hi, eq_of_until? hc]
  simp [source]

/-- A tag at the head of a text and the text behind it make up the whole text. -/
theorem eq_of_head? {cs rest : List Char} {t : RawTag} (h : head? cs = some (t, rest)) :
    cs = t.source ++ rest := by
  unfold head? at h
  rcases Option.or_eq_some_iff.1 h with h | ⟨_, h⟩ <;> exact (eq_of_headWith? h).2

theorem length_lt_of_head? {cs rest : List Char} {t : RawTag} (h : head? cs = some (t, rest)) :
    rest.length < cs.length := by
  rw [eq_of_head? h]
  cases h : t.triple <;> simp [source, opening, h] <;> omega

end RawTag

/-- A source cut at its tags: the text in front of the first one, and each tag with the text
behind it. -/
structure Cut where
  text : List Char
  tags : List (RawTag × List Char)
  deriving DecidableEq, Repr

namespace Cut

/-- The cut of a source at its leftmost tags. -/
def of (cs : List Char) : Cut :=
  match h : RawTag.head? cs with
  | some (tag, rest) =>
    have := RawTag.length_lt_of_head? h
    let cut := of rest
    ⟨[], (tag, cut.text) :: cut.tags⟩
  | none =>
    match cs with
    | [] => ⟨[], []⟩
    | c :: cs =>
      let cut := of cs
      ⟨c :: cut.text, cut.tags⟩
termination_by cs.length

/-- The source that was cut. -/
def source (cut : Cut) : List Char :=
  cut.text ++ cut.tags.flatMap fun (tag, text) => tag.source ++ text

theorem source_of (cs : List Char) : (of cs).source = cs := by
  fun_induction of cs with
  | case1 cs tag rest h _ cut ih =>
    rw [RawTag.eq_of_head? h]
    simpa [source, cut] using ih
  | case2 => rfl
  | case3 c cs h cut ih => simpa [source, cut] using ih

end Cut

end Stencil
