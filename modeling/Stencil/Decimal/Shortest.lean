-- The shortest decimal of a binary number: the fewest digits that read back as this number, and
-- among those the nearest. Everything is computed on whole numbers, so nothing is rounded twice.

namespace Stencil

/-- A number written to base two: `mantissa * 2 ^ exponent`. -/
structure Binary where
  mantissa : Nat
  exponent : Int
  deriving DecidableEq, Repr

/-- A number written to base ten: `digits * 10 ^ exponent`. -/
structure Decimal where
  digits : Nat
  exponent : Int
  deriving DecidableEq, Repr

/-- Powers of two. -/
def twoTo (n : Nat) : Nat := Nat.pow 2 n

/-- Powers of ten. -/
def tenTo (n : Nat) : Nat := Nat.pow 10 n

namespace Binary

/-- The magnitude of a finite floating point number. -/
def ofFloat (x : Float) : Binary :=
  let bits := x.toBits.toNat
  let fraction : Nat := bits % twoTo 52
  let power : Nat := bits / twoTo 52 % twoTo 11
  if power = 0 then ⟨fraction, -1074⟩ else ⟨fraction + twoTo 52, (power : Int) - 1075⟩

/-- The lower end, the number itself and the upper end of what reads back as the number, in
quarters of its last place; below a power of two the numbers are twice as dense. -/
def quarters (x : Binary) : Nat × Nat × Nat :=
  let dense := x.mantissa = twoTo 52 && x.exponent > -1074
  (4 * x.mantissa - (if dense then 1 else 2), 4 * x.mantissa, 4 * x.mantissa + 2)

/-- A quarter of the last place and the unit `10 ^ power`, as whole numbers to one scale. -/
def weights (x : Binary) (power : Int) : Nat × Nat :=
  let place := x.exponent - 2
  (twoTo place.toNat * tenTo (-power).toNat, tenTo power.toNat * twoTo (-place).toNat)

/-- The nearest multiple of `10 ^ power` that reads back as the number, if one does; of two equally
near ones, the even one. The ends of the interval read back if the mantissa is even. -/
def nearestOn? (x : Binary) (power : Int) : Option Nat :=
  let (low, mid, high) := x.quarters
  let (quarter, unit) := x.weights power
  let below := mid * quarter / unit
  let readsBack (n : Nat) : Bool :=
    if x.mantissa % 2 = 0 then low * quarter ≤ n * unit && n * unit ≤ high * quarter
    else low * quarter < n * unit && n * unit < high * quarter
  let gap := mid * quarter - below * unit
  let near := if 2 * gap < unit || (2 * gap = unit && below % 2 = 0) then below else below + 1
  let far := if near = below then below + 1 else below
  if readsBack near then some near else if readsBack far then some far else none

/-- The power of ten of the first digit of a positive number. -/
def magnitude (x : Binary) : Int :=
  let top := x.mantissa * twoTo x.exponent.toNat
  let bottom := twoTo (-x.exponent).toNat
  let digitCount (n : Nat) : Nat := (Nat.toDigits 10 n).length
  if bottom ≤ top then digitCount (top / bottom) - 1
  else -digitCount ((bottom + top - 1) / top - 1)

/-- The shortest decimal of a positive number: ever finer powers of ten are tried, and seventeen
digits are always enough. -/
def shortest (x : Binary) : Decimal :=
  let first := x.magnitude
  let tried := (List.range 17).findSome? fun (n : Nat) =>
    (x.nearestOn? (first - n)).map fun digits => (⟨digits, first - n⟩ : Decimal)
  tried.getD ⟨0, 0⟩

end Binary

end Stencil
