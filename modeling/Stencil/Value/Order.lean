-- The order of keys. Texts are ordered by their characters, numbers by what they count, and pairs
-- and longer tuples by the first part in which they differ; other keys have no order.
import Stencil.Decimal.Nearest
import Stencil.HostError
import Stencil.Value.Equality

namespace Stencil.Value

/-- A number as a floating point number. -/
def float? : Value → Option Float
  | .float x => some x
  | v => v.whole?.map fun i => floatQuotient i 1

/-- Whether a list of bytes comes before another one. -/
def bytesBefore : List UInt8 → List UInt8 → Bool
  | _, [] => false
  | [], _ :: _ => true
  | a :: r, b :: s => if a = b then bytesBefore r s else a < b

mutual

/-- Whether a key comes before another one. -/
def before : Value → Value → Except HostError Bool
  | .tuple a, .tuple b => beforeAll a b
  | .bytes a, .bytes b => .ok (bytesBefore a b)
  | a, b =>
    match a.text?, b.text?, a.whole?, b.whole? with
    | some s, some t, _, _ => .ok (s < t)
    | _, _, some m, some n => .ok (m < n)
    | _, _, _, _ =>
      match a.float?, b.float? with
      | some x, some y => .ok (x < y)
      | _, _ => .error (.unordered a.kind b.kind)

def beforeAll : List Value → List Value → Except HostError Bool
  | _, [] => .ok false
  | [], _ :: _ => .ok true
  | a :: r, b :: s => if sameKey a b then beforeAll r s else before a b

end

end Stencil.Value
