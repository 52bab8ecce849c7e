-- When two values are the same key. Numbers are compared by what they count, truth values count
-- as zero and one, and safe text is the same key as plain text.
import Stencil.Decimal.Shortest
import Stencil.Value.Basic

namespace Stencil.Value

/-- The whole number that a value counts, if it counts one. -/
def whole? : Value → Option Int
  | .bool b => some (if b then 1 else 0)
  | .int i => some i
  | .float x =>
    if x.isNaN || x.isInf then none
    else
      let size := Binary.ofFloat x
      let below := twoTo (-size.exponent).toNat
      if size.mantissa % below = 0 then
        let n : Nat := size.mantissa / below * twoTo size.exponent.toNat
        some (if x < 0 then -(n : Int) else n)
      else none
  | _ => none

mutual

def sameKey : Value → Value → Bool
  | .missing, .missing | .null, .null => true
  | .bytes a, .bytes b => a == b
  | .day a, .day b => a == b
  | .moment a, .moment b => a.same b
  | .tuple a, .tuple b | .list a, .list b => sameKeys a b
  | .range a b c, .range d e f => sameRange a b c d e f
  | .stream _ m .., .stream _ n .. => m == n
  | .filter f _, .filter g _ => f == g
  | a, b =>
    match a.whole?, b.whole? with
    | some m, some n => m == n
    | some _, none | none, some _ => false
    | none, none =>
      match a, b with
      | .float x, .float y => x == y
      | a, b =>
        match a.text?, b.text? with
        | some s, some t => s == t
        | _, _ => false

def sameKeys : List Value → List Value → Bool
  | [], [] => true
  | a :: r, b :: s => sameKey a b && sameKeys r s
  | _, _ => false

/-- Two ranges are the same if they hold the same numbers. -/
def sameRange (a b c d e f : Int) : Bool :=
  let size := rangeSize a b c
  size == rangeSize d e f && (size == 0 || (a == d && (size == 1 || c == f)))

end

/-- The entries with a value put under a key: in place if the key is there, else at the end. -/
def insert (key value : Value) : List (Value × Value) → List (Value × Value)
  | [] => [(key, value)]
  | (k, v) :: rest => if sameKey k key then (k, value) :: rest else (k, v) :: insert key value rest

/-- The value under a text key. -/
def find? (key : String) (entries : List (Value × Value)) : Option Value :=
  (entries.find? fun (k, _) => k.text? == some key).map Prod.snd

end Stencil.Value
