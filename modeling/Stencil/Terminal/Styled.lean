-- Lines of text for a terminal without colours. Tags in square brackets begin and end styles and
-- are not shown; a closing tag needs an open one. Codes between tags become emoji, controls are
-- dropped and tabs become blanks.
import Stencil.Emoji.Code
import Stencil.Text.Blank
import Stencil.Text.Case

namespace Stencil.Terminal

inductive Piece where
  | text (content : List Char)
  /-- A tag without its brackets. -/
  | tag (content : List Char)

/-- The characters that a tag may begin with. -/
def beginsTag (c : Char) : Bool := ('a' ≤ c && c ≤ 'z') || c == '#' || c == '/' || c == '@'

/-- The tag whose opening bracket was read, and the text behind it. -/
def tag? : List Char → Option (List Char × List Char)
  | [] => none
  | c :: rest =>
    if beginsTag c then
      let inside := rest.takeWhile fun d => d ≠ ']' && d ≠ '['
      match rest.drop inside.length with
      | ']' :: behind => some (c :: inside, behind)
      | _ => none
    else none

theorem length_lt_of_tag? {cs tag behind : List Char} (h : tag? cs = some (tag, behind)) :
    behind.length < cs.length := by
  unfold tag? at h
  split at h
  · simp at h
  · next c rest =>
    split at h
    · next =>
      dsimp only at h
      split at h
      · next b hb =>
        obtain ⟨-, rfl⟩ : _ ∧ b = behind := by simpa using h
        have := congrArg List.length hb
        simp only [List.length_drop, List.length_cons] at this ⊢
        omega
      · simp at h
    · simp at h

/-- The pieces of a text behind `plain`, which is kept in reverse, and a number of backslashes. Two
backslashes in front of a tag stand for one, and a single one makes the tag text. -/
def piecesFrom (plain : List Char) (slashes : Nat) (cs : List Char) : List Piece :=
  match cs with
  | [] => [.text (List.replicate slashes '\\' ++ plain).reverse]
  | '\\' :: rest => piecesFrom plain (slashes + 1) rest
  | '[' :: rest =>
    match h : tag? rest with
    | some (tag, behind) =>
      have := length_lt_of_tag? h
      [.text plain.reverse, .text (List.replicate (slashes / 2) '\\'),
        if slashes % 2 = 0 then .tag tag else .text ('[' :: tag ++ [']'])] ++
        piecesFrom [] 0 behind
    | none => piecesFrom ('[' :: List.replicate slashes '\\' ++ plain) 0 rest
  | c :: rest => piecesFrom (c :: List.replicate slashes '\\' ++ plain) 0 rest
termination_by cs.length
decreasing_by all_goals simp_all <;> omega

/-- A bracket behind a backslash is a bracket. -/
def unescaped : List Char → List Char
  | [] => []
  | '\\' :: '[' :: rest => '[' :: unescaped rest
  | c :: rest => c :: unescaped rest

/-- The short names of styles, with the long ones. -/
def shortStyles : List (String × String) := [
  ("b", "bold"), ("c", "conceal"), ("d", "dim"), ("i", "italic"), ("o", "overline"),
  ("r", "reverse"), ("s", "strike"), ("u", "underline"), ("uu", "underline2")]

/-- The name of a style, in small letters and in its long form. -/
def styleName (cs : List Char) : List Char :=
  let name := Text.lower (Text.trim cs)
  ((shortStyles.lookup (String.ofList name)).map String.toList).getD name

/-- The text of pieces without their tags and with its emoji, given the open styles, latest first;
nothing if a tag closes what is not open. -/
def untagged (opened : List (List Char)) : List Piece → Option (List Char)
  | [] => some []
  | .text cs :: rest => (untagged opened rest).map (Emoji.decoded (unescaped cs) ++ ·)
  | .tag cs :: rest =>
    match cs.takeWhile (· ≠ '=') with
    | '/' :: name =>
      if (styleName name).isEmpty then
        if opened.isEmpty then none else untagged opened.tail rest
      else if opened.contains (styleName name) then untagged (opened.erase (styleName name)) rest
      else none
    | name => untagged (styleName name :: opened) rest

/-- The controls that a terminal is not sent. -/
def isDropped (c : Char) : Bool := [7, 8, 11, 12, 13].contains c.toNat

/-- The text with blanks up to the next column that eight divides for each tab. -/
def withoutTabs (column : Nat) : List Char → List Char
  | [] => []
  | '\n' :: rest => '\n' :: withoutTabs 0 rest
  | '\t' :: rest =>
    let next := (column / 8 + 1) * 8
    List.replicate (next - column) ' ' ++ withoutTabs next rest
  | c :: rest => c :: withoutTabs (column + 1) rest

/-- A text as a terminal shows it, with a line end behind it; nothing if its tags do not match. -/
def shown? (s : String) : Option String := do
  let cs ← untagged [] (piecesFrom [] 0 s.toList)
  return String.ofList (withoutTabs 0 (cs.filter fun c => !isDropped c) ++ ['\n'])

end Stencil.Terminal
