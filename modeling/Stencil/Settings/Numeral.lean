-- Whole numbers as settings spell them: white space around a numeral, a plus, zeros in front,
-- zeros behind a point, and single underscores between digits do not count.
import Stencil.Text.Blank
import Stencil.Text.Numeral

namespace Stencil.Settings.Numeral

inductive Flaw where
  | malformed
  | tooLong
  deriving DecidableEq, Repr

/-- A digit that may begin a numeral. -/
def isLeading (c : Char) : Bool := c.isDigit && c != '0'

/-- The numeral without a point that has nothing but zeros behind it. -/
def withoutPoint (cs : List Char) : List Char :=
  let part := (cs.dropWhile (· ≠ '.')).drop 1
  if !part.isEmpty && part.all (· == '0') then cs.takeWhile (· ≠ '.') else cs

/-- The numeral without zeros in front and the underscores among them; the last character stays. A
minus may stand behind zeros. -/
def withoutZeros? : List Char → Option (List Char)
  | [] => none
  | c :: cs =>
    if c = '0' then
      match cs.dropWhile fun d => d == '0' || d == '_' with
      | [] => some [(c :: cs).getLast (List.cons_ne_nil c cs)]
      | d :: rest => if isLeading d || d = '-' then some (d :: rest) else none
    else if isLeading c then some (c :: cs)
    else none

/-- The same behind a minus, if there is one. -/
def signedWithoutZeros? : List Char → Option (List Char)
  | '-' :: cs => (withoutZeros? cs).map ('-' :: ·)
  | cs => withoutZeros? cs

/-- The numeral without a plus; no minus may follow it. -/
def withoutPlus? : List Char → Option (List Char)
  | '+' :: '-' :: _ => none
  | '+' :: cs => some cs
  | cs => some cs

/-- The numeral without underscores, if none of them stands at an end or beside another one. -/
def withoutUnderscores (cs : List Char) : List Char :=
  if (cs.splitOn '_').all fun group => !group.isEmpty then cs.filter (· ≠ '_') else cs

/-- What remains: digits behind an optional minus, a zero only alone. -/
def plain (cs : List Char) : Except Flaw Int :=
  let sign := cs.takeWhile (· == '-')
  let digits := (cs.drop sign.length).takeWhile Char.isDigit
  if 1 < sign.length || digits.isEmpty then .error .malformed
  else if Text.longestNumeral < sign.length + digits.length then .error .tooLong
  else if sign.length + digits.length < cs.length then .error .malformed
  else if digits.head? = some '0' && digits ≠ ['0'] then .error .malformed
  else .ok (if sign.isEmpty then Text.ofDigits digits else -Text.ofDigits digits)

/-- The number that a text spells. -/
def read (s : String) : Except Flaw Int :=
  let trimmed := Text.trimBy Text.isWhiteSpace s.toList
  match (withoutPlus? trimmed).bind fun cs => signedWithoutZeros? (withoutPoint cs) with
  | none => .error .malformed
  | some cs => plain (withoutUnderscores cs)

end Stencil.Settings.Numeral
