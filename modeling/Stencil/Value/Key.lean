-- Keys of values. Mappings have their entries and objects their attributes; items of indexed
-- sequences are found by number, counted from the end if it is negative, and by three names.
import Stencil.HostError
import Stencil.Value.Equality

namespace Stencil.Value

/-- The item with a number; a negative number counts from the end. -/
def item? (items : List Value) (i : Int) : Option Value :=
  if 0 ≤ i then items[i.toNat]?
  else
    let n := i + items.length
    if 0 ≤ n then items[n.toNat]? else none

/-- The number in a range that has an index; a negative index counts from the end. -/
def rangeItem? (start stop step i : Int) : Option Value :=
  let size := rangeSize start stop step
  let n := if 0 ≤ i then i else i + size
  if 0 ≤ n && n < size then some (.int (start + n * step)) else none

/-- Three names of indexed sequences: the ends, which are null where there is no item, and the
count. -/
def endKey? (size : Nat) (byNumber : Int → Option Value) (key : String) : Option Value :=
  if key = "count" then some (.int size)
  else if key = "first" then some ((byNumber 0).getD .null)
  else if key = "last" then some ((byNumber (-1)).getD .null)
  else none

/-- A key of an indexed sequence, given its size and its items by number; other keys are left to
`other`. The three names go through all items, which have to be counted for that. -/
def ofSequence (size : Nat) (byNumber : Int → Option Value) (other : Except HostError Value)
    (key : String) : Except HostError Value :=
  match Text.Numeral.read key.toList with
  | .number i => .ok ((byNumber i).getD .missing)
  | .malformed => .error (.malformedNumeral 10 key)
  | .oversized digits => .error (.oversizedNumeral digits)
  | .none =>
    match endKey? size byNumber key with
    | some v => if size ≤ longestSequence then .ok v else .error .uncountable
    | none => other

/-- An attribute; those whose names begin with an underscore stay hidden. -/
def attributeOf (attributes : List (String × Value)) (key : String) : Value :=
  if key.toList.head? = some '_' then .missing else (attributes.lookup key).getD .missing

/-- An attribute of an object of the host, where some raise an error; hidden ones are not asked for.
-/
def ownAttribute (raising : List (String × HostError)) (attributes : List (String × Value))
    (key : String) : Except HostError Value :=
  match if key.toList.head? = some '_' then none else raising.lookup key with
  | some error => .error error
  | none => .ok (attributeOf attributes key)

/-- The parts of a day. -/
def ofDay (d : Day) : List (String × Value) :=
  [("year", .int d.year), ("month", .int d.month), ("day", .int d.day)]

/-- The parts of a moment; the clock is null if its offset is not known. -/
def ofMoment (m : Moment) : List (String × Value) :=
  ofDay m.day ++
    [("hour", .int m.hour), ("minute", .int m.minute), ("second", .int m.second),
      ("microsecond", .int m.micros), ("fold", .int 0),
      ("tzinfo", match m.offset with
        | none => .null
        | some minutes =>
          .object ⟨"timezone", .ok (Moment.clockText minutes), .ok true, []⟩ [])]

/-- The value under a key of a value, `missing` if there is none. -/
def lookup (v : Value) (key : String) : Except HostError Value :=
  match v with
  | .mapping entries => .ok ((find? key entries).getD .missing)
  | .list items | .tuple items => ofSequence items.length (item? items) (.ok .missing) key
  | .range start stop step =>
    ofSequence (rangeSize start stop step) (rangeItem? start stop step) (.ok .missing) key
  | .collection traits items attributes =>
    let other := ownAttribute traits.raising attributes key
    if traits.indexed then ofSequence items.length (item? items) other key else other
  | .object traits attributes => ownAttribute traits.raising attributes key
  | .day d => .ok (attributeOf (ofDay d) key)
  | .moment m => .ok (attributeOf (ofMoment m) key)
  | .eager content safe => .ok (attributeOf [("text", .text content), ("safe", .bool safe)] key)
  | .eachItem item index last number =>
    .ok (attributeOf [("value", item), ("position", .mapping (position index last number))] key)
  | _ => .ok .missing

end Stencil.Value
