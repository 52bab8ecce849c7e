-- Whole numbers in decimals: how they are written, and how a key that looks like a number is read.
-- A numeral has at most one minus, decimal digits of any scripts, and a bounded length.
import Stencil.Text.Digit

namespace Stencil.Text

/-- A whole number in decimals. -/
def numeral (i : Int) : String :=
  String.ofList ((if i < 0 then ['-'] else []) ++ Nat.toDigits 10 i.natAbs)

/-- The most digits that a numeral may have. -/
def longestNumeral : Nat := 4300

/-- Whether a number has no more digits than that. -/
def isWritable (i : Int) : Bool := (Nat.toDigits 10 i.natAbs).length ≤ longestNumeral

/-- What a text of digits behind minuses is. -/
inductive Numeral where
  /-- Not digits behind minuses. -/
  | none
  | number (i : Int)
  /-- Digits, but not those of a number. -/
  | malformed
  /-- More digits than a numeral may have. -/
  | oversized (digits : Nat)
  deriving DecidableEq, Repr

/-- The number that decimal digits spell. -/
def ofDigits (cs : List Char) : Nat := cs.foldl (fun n c => 10 * n + (decimal? c).getD 0) 0

/-- Reads a key as a numeral. Its length is checked before anything that follows its decimal digits,
and two minuses spoil it before its length. -/
def Numeral.read (cs : List Char) : Numeral :=
  let minuses := cs.takeWhile (· == '-')
  let digits := cs.dropWhile (· == '-')
  if digits.isEmpty || !digits.all isDigit then .none
  else if 1 < minuses.length then .malformed
  else
    let decimals := digits.takeWhile fun c => (decimal? c).isSome
    if longestNumeral < decimals.length then .oversized decimals.length
    else if decimals.length < digits.length then .malformed
    else .number (if minuses.isEmpty then ofDigits digits else -ofDigits digits)

end Stencil.Text
