-- Marks at the head and at the end of a text.

namespace Stencil.Text

/-- The text behind a mark, if the mark stands at the head of a text. -/
def behind? : List Char → List Char → Option (List Char)
  | [], cs => some cs
  | _ :: _, [] => none
  | m :: mark, c :: cs => if m = c then behind? mark cs else none

theorem behind?_eq_some {mark cs rest : List Char} :
    behind? mark cs = some rest ↔ mark ++ rest = cs := by
  induction mark generalizing cs with
  | nil => simp [behind?, eq_comm]
  | cons m mark ih =>
    cases cs with
    | nil => simp [behind?]
    | cons c cs => by_cases h : m = c <;> simp [behind?, h, ih]

/-- The text before a mark, if the mark stands at the end of a text. -/
def before? (mark cs : List Char) : Option (List Char) :=
  (behind? mark.reverse cs.reverse).map List.reverse

theorem before?_eq_some {mark cs rest : List Char} :
    before? mark cs = some rest ↔ rest ++ mark = cs := by
  simp only [before?, Option.map_eq_some_iff, behind?_eq_some]
  constructor
  · rintro ⟨back, split, rfl⟩
    simpa using congrArg List.reverse split
  · rintro rfl
    exact ⟨rest.reverse, by simp, by simp⟩

end Stencil.Text
