-- The lexemes of an expression: four marks, and names, which are the longest runs of other
-- characters. Blanks only separate, and braces stand in no expression.
import Stencil.Text.Blank

namespace Stencil

inductive Lexeme where
  | dot
  | comma
  | opening
  | closing
  | name (name : String)
  deriving DecidableEq, Repr

namespace Lexeme

def text : Lexeme → String
  | .dot => "."
  | .comma => ","
  | .opening => "("
  | .closing => ")"
  | .name n => n

/-- The mark that a character stands for. -/
def ofMark? : Char → Option Lexeme
  | '.' => some .dot
  | ',' => some .comma
  | '(' => some .opening
  | ')' => some .closing
  | _ => none

/-- The characters of names: all but blanks, marks and braces. -/
def isNameChar (c : Char) : Bool :=
  !Text.isBlank c && (ofMark? c).isNone && c != '\x7b' && c != '\x7d'

/-- A name that an expression can hold. -/
def IsName (s : String) : Prop := s ≠ "" ∧ ∀ c ∈ s.toList, isNameChar c = true

/-- The lexemes of a text whose first character has the given offset. A brace is refused with the
offset at which the blanks in front of it begin. -/
def scan (offset : Nat) (cs : List Char) : Except Nat (List Lexeme) :=
  match h : cs.dropWhile Text.isBlank with
  | [] => .ok []
  | c :: rest =>
    have : rest.length < cs.length := by
      have := (List.dropWhile_suffix Text.isBlank (l := cs)).length_le
      rw [h, List.length_cons] at this
      omega
    let here := offset + (cs.takeWhile Text.isBlank).length
    match ofMark? c with
    | some mark => (mark :: ·) <$> scan (here + 1) rest
    | none =>
      if isNameChar c then
        have : (rest.dropWhile isNameChar).length < cs.length := by
          have := (List.dropWhile_suffix isNameChar (l := rest)).length_le
          omega
        let tail := rest.takeWhile isNameChar
        (.name (String.ofList (c :: tail)) :: ·) <$>
          scan (here + 1 + tail.length) (rest.dropWhile isNameChar)
      else .error offset
termination_by cs.length

end Lexeme

end Stencil
