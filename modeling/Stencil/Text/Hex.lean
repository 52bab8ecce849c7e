-- Numbers to base sixteen, with a fixed count of digits.

namespace Stencil.Text

def hexDigit (capital : Bool) (n : Nat) : Char :=
  if n < 10 then Char.ofNat (48 + n) else Char.ofNat ((if capital then 55 else 87) + n)

/-- The last `width` digits of a number to base sixteen. -/
def hex (capital : Bool) (width n : Nat) : List Char :=
  match width with
  | 0 => []
  | w + 1 => hex capital w (n / 16) ++ [hexDigit capital (n % 16)]

end Stencil.Text
