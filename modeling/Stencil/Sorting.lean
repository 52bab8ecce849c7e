-- Sorting by a comparison that may fail. The run at the beginning that is in order, or in the
-- reverse order, is kept; every other element is put in by halving. Where elements cannot be
-- compared, this fixes which two are compared first.

namespace Stencil.Sorting

variable {α ε : Type} (before : α → α → Except ε Bool)

/-- How many elements belong to the run that goes on behind an element; each of them comes before
the one in front of it, or none does. -/
def runFrom (falling : Bool) (last : α) : List α → Except ε Nat
  | [] => .ok 0
  | a :: rest => do
    if (← before a last) = falling then return (← runFrom falling a rest) + 1 else return 0

/-- The run at the beginning, put in order, and what is behind it. -/
def firstRun : List α → Except ε (List α × List α)
  | a :: b :: rest => do
    let falling ← before b a
    let n ← runFrom before falling b rest
    let run := a :: b :: rest.take n
    return (if falling then run.reverse else run, rest.drop n)
  | short => .ok (short, [])

/-- The place of an element among the ones in order from `low` up to `high`, found by halving;
behind those that it does not come before. -/
def place (a : α) (sorted : List α) : Nat → Nat → Nat → Except ε Nat
  | 0, low, _ => .ok low
  | fuel + 1, low, high =>
    if low < high then do
      let mid := low + (high - low) / 2
      match sorted[mid]? with
      | none => return low
      | some b =>
        if ← before a b then place a sorted fuel low mid else place a sorted fuel (mid + 1) high
    else .ok low

/-- The elements in order with one more. -/
def insert (sorted : List α) (a : α) : Except ε (List α) := do
  let n ← place before a sorted (sorted.length + 1) 0 sorted.length
  return sorted.insertIdx n a

/-- The elements in order; equal ones stay in the order in which they were. -/
def sort (l : List α) : Except ε (List α) := do
  let (run, rest) ← firstRun before l
  rest.foldlM (insert before) run

end Stencil.Sorting
