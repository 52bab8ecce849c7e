-- Bytes written in sixty-four characters, six bits each. Other characters are passed over; padding
-- that completes a group of four ends the text.

namespace Stencil.Text

/-- The six bits that a character stands for. -/
def sextet? (c : Char) : Option Nat :=
  if 'A' ≤ c && c ≤ 'Z' then some (c.toNat - 65)
  else if 'a' ≤ c && c ≤ 'z' then some (c.toNat - 71)
  else if '0' ≤ c && c ≤ '9' then some (c.toNat + 4)
  else if c = '+' then some 62
  else if c = '/' then some 63
  else none

/-- The bytes of a text, given the sextets of the group read so far, latest first, and the number of
paddings behind them; an unfinished group is an error. -/
def base64From : List Nat → Nat → List Char → Option (List UInt8)
  | group, _, [] => if group.isEmpty then some [] else none
  | group, pads, c :: rest =>
    if c = '=' then
      if 2 ≤ group.length && 4 ≤ group.length + pads + 1 then some []
      else base64From group (if 2 ≤ group.length then pads + 1 else pads) rest
    else
      match sextet? c, group with
      | none, _ => base64From group pads rest
      | some v, [] => base64From [v] 0 rest
      | some v, [a] => (base64From [v, a] 0 rest).map ((4 * a + v / 16).toUInt8 :: ·)
      | some v, [b, a] => (base64From [v, b, a] 0 rest).map ((16 * (b % 16) + v / 4).toUInt8 :: ·)
      | some v, b :: _ => (base64From [] 0 rest).map ((64 * (b % 4) + v).toUInt8 :: ·)

/-- The bytes that a text spells. -/
def base64? (cs : List Char) : Option (List UInt8) := base64From [] 0 cs

end Stencil.Text
