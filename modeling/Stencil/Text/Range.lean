-- Sets of characters, given by the first and the last code point of each of their ranges.

namespace Stencil.Text

def inRanges (ranges : List (Nat × Nat)) (c : Char) : Bool :=
  ranges.any fun (first, last) => first ≤ c.toNat && c.toNat ≤ last

end Stencil.Text
