-- Codes for emoji in a text: a name between two colons, which may end in the form that is wanted. A
-- code that names no emoji stays as it is.
import Stencil.Emoji.Name
import Stencil.Text.Blank
import Stencil.Text.Case

namespace Stencil.Emoji

/-- What stands between a colon that was read and the next one, and the text behind that; there is
no blank in a code. -/
def code? (cs : List Char) : Option (List Char × List Char) :=
  let inside := cs.takeWhile fun c => c ≠ ':' && !Text.isBlank c
  match cs.drop inside.length with
  | ':' :: behind => some (inside, behind)
  | _ => none

theorem length_lt_of_code? {cs inside behind : List Char} (h : code? cs = some (inside, behind)) :
    behind.length < cs.length := by
  unfold code? at h
  dsimp only at h
  split at h
  · next rest hr =>
    obtain ⟨-, rfl⟩ : _ ∧ rest = behind := by simpa using h
    have length := congrArg List.length hr
    simp only [List.length_drop, List.length_cons] at length
    omega
  · simp at h

/-- The name in a code and what its form adds to the emoji. -/
def nameAndForm (inside : List Char) : List Char × List Char :=
  match Text.before? "-emoji".toList inside, Text.before? "-text".toList inside with
  | some name, _ => (name, [colourForm])
  | none, some name => (name, [textForm])
  | none, none => (inside, [])

/-- The emoji that a code means; capital letters in its name do not matter. -/
def ofCode? (inside : List Char) : Option (List Char) :=
  let (name, form) := nameAndForm inside
  (ofName? (String.ofList (Text.lower name))).map (· ++ form)

/-- A text with the emoji that its codes mean. -/
def decoded (cs : List Char) : List Char :=
  match cs with
  | [] => []
  | ':' :: rest =>
    match h : code? rest with
    | some (inside, behind) =>
      have := length_lt_of_code? h
      (ofCode? inside).getD (':' :: inside ++ [':']) ++ decoded behind
    | none => ':' :: decoded rest
  | c :: rest => c :: decoded rest
termination_by cs.length
decreasing_by all_goals simp_all <;> omega

end Stencil.Emoji
