-- How decimals are written: in which range digits are written by place, how an exponent looks,
-- and what stands for the numbers that are not finite. Also how a decimal is read.
import Stencil.Decimal.Nearest

namespace Stencil

/-- The choices of a number format. -/
structure Decimal.Layout where
  /-- The least power of ten of the first digit that is written by place. -/
  leastPlace : Int
  /-- The greatest one. -/
  greatestPlace : Int
  /-- What whole numbers end with. -/
  wholeEnd : String
  exponentMark : String
  /-- The least number of digits of an exponent, whose sign is always written. -/
  exponentWidth : Nat
  notANumber : String
  infinity : String

namespace Decimal

/-- The decimal without zeros at the end of its digits. -/
def trimZeros (d : Decimal) : Nat → Decimal
  | 0 => d
  | fuel + 1 =>
    if d.digits ≠ 0 && d.digits % 10 = 0 then trimZeros ⟨d.digits / 10, d.exponent + 1⟩ fuel else d

namespace Layout

/-- Digits by place; `places` is the power of ten of the last digit. -/
def byPlace (l : Layout) (digits : List Char) (places : Int) : List Char :=
  if 0 ≤ places then digits ++ List.replicate places.toNat '0' ++ l.wholeEnd.toList
  else
    let behind := (-places).toNat
    let whole := digits.take (digits.length - behind)
    let part := digits.drop (digits.length - behind)
    (if whole.isEmpty then ['0'] else whole) ++
      '.' :: (List.replicate (behind - digits.length) '0' ++ part)

/-- One digit in front of the point, and the power of ten. -/
def byExponent (l : Layout) (digits : List Char) (power : Int) : List Char :=
  let tail := digits.drop 1
  let exponent := Nat.toDigits 10 power.natAbs
  digits.take 1 ++ (if tail.isEmpty then [] else '.' :: tail) ++ l.exponentMark.toList ++
    [if power < 0 then '-' else '+'] ++
    List.replicate (l.exponentWidth - exponent.length) '0' ++ exponent

def write (l : Layout) (d : Decimal) : List Char :=
  let d := d.trimZeros 400
  let digits := Nat.toDigits 10 d.digits
  let power := d.exponent + digits.length - 1
  if l.leastPlace ≤ power && power ≤ l.greatestPlace then l.byPlace digits d.exponent
  else l.byExponent digits power

/-- The text of a floating point number. -/
def float (l : Layout) (x : Float) : String :=
  if x.isNaN then l.notANumber
  else
    let sign := if x.toBits.toNat < twoTo 63 then "" else "-"
    let size :=
      if x.isInf then l.infinity
      else if (Binary.ofFloat x).mantissa = 0 then "0" ++ l.wholeEnd
      else String.ofList (l.write (Binary.ofFloat x).shortest)
    sign ++ size

end Layout

/-! ## Reading -/

/-- A nonempty list of digits as a number. -/
def digits? (cs : List Char) : Option Nat :=
  if !cs.isEmpty && cs.all Char.isDigit then
    some (cs.foldl (fun n c => 10 * n + (c.toNat - 48)) 0)
  else none

/-- A text without its sign, and whether it was a minus. -/
def unsigned : List Char → Bool × List Char
  | '-' :: cs => (true, cs)
  | '+' :: cs => (false, cs)
  | cs => (false, cs)

/-- An exponent with an optional sign. -/
def exponent? (cs : List Char) : Option Int :=
  let (negative, cs) := unsigned cs
  (digits? cs).map fun n => if negative then -(n : Int) else n

/-- The size of a number without sign: digits with a point among them, and an exponent. -/
def size? (cs : List Char) : Option Decimal := do
  let front := cs.takeWhile fun c => c ≠ 'e' && c ≠ 'E'
  let power ← match cs.dropWhile fun c => c ≠ 'e' && c ≠ 'E' with
    | [] => some 0
    | _ :: cs => exponent? cs
  let whole := front.takeWhile (· ≠ '.')
  let part := (front.dropWhile (· ≠ '.')).drop 1
  let digits ← digits? (whole ++ part)
  return ⟨digits, power - part.length⟩

/-- The floating point number nearest to a decimal. -/
def toFloat (d : Decimal) : Float :=
  if d.digits = 0 then 0.0
  else if d.exponent > 400 then 1.0 / 0.0
  else if d.exponent + (Nat.toDigits 10 d.digits).length < -400 then 0.0
  else floatQuotient (d.digits * tenTo d.exponent.toNat : Nat) (tenTo (-d.exponent).toNat)

/-- The floating point number that a text spells in decimals. -/
def float? (cs : List Char) : Option Float :=
  let (negative, size) := unsigned cs
  (size? size).map fun d => if negative then -d.toFloat else d.toFloat

end Decimal

end Stencil
