-- The values that templates meet: plain data, sequences and mappings, objects of the host program,
-- values that render themselves, and filters. Functions of the host are held by their names.
import Stencil.Fault
import Stencil.Filter.Basic
import Stencil.Passage

namespace Stencil

/-- What an object of the host is like, apart from its attributes. -/
structure ObjectTraits where
  label : String
  /-- Its text, or what writing it raises. -/
  text : Except HostError String
  /-- Whether it is true, or what asking that raises. -/
  truth : Except HostError Bool
  /-- The attributes that raise an error when they are asked for. -/
  raising : List (String × HostError)

/-- What a sized sequence of the host is like, apart from its items and attributes. -/
structure SequenceTraits where
  label : String
  /-- Whether items are found by number. -/
  indexed : Bool
  /-- Its own truth, or what asking for it raises, if it is not that of having items. -/
  truth : Option (Except HostError Bool)
  /-- The safe text that it stands for, if there is one. -/
  markup : Option String
  /-- The attributes that raise an error when they are asked for. -/
  raising : List (String × HostError)

inductive Value where
  /-- A lookup that found nothing. -/
  | missing
  | null
  | bool (b : Bool)
  | int (i : Int)
  | float (x : Float)
  | text (s : String)
  /-- Text that is safe to insert. -/
  | markup (s : String)
  | bytes (bytes : List UInt8)
  | day (day : Day)
  | moment (moment : Moment)
  | list (items : List Value)
  | tuple (items : List Value)
  /-- The numbers from `start` towards `stop`, `step` apart. -/
  | range (start stop step : Int)
  /-- Entries in the order of their insertion, with keys of any kind. -/
  | mapping (entries : List (Value × Value))
  /-- An object of the host with attributes. -/
  | object (traits : ObjectTraits) (attributes : List (String × Value))
  /-- An object of the host that stands for safe text. -/
  | safeObject (label markup : String)
  /-- A sequence that hands out each item once, and may raise a failure behind the last one; `id`
  tells streams apart. -/
  | stream (label : String) (id : Nat) (items : List Value) (ending : Option Failure := none)
  /-- A sized sequence of the host with attributes. -/
  | collection (traits : SequenceTraits) (items : List Value) (attributes : List (String × Value))
  /-- A renderable whose text is known. -/
  | eager (text : String) (safe : Bool)
  /-- A renderable of the host, run when it is rendered. -/
  | deferred (script : String) (captured : List Value)
  /-- A textual filter and its arguments, called when it is rendered. -/
  | pending (body : Body TextFunction) (captured arguments : List Value)
  /-- A renderable of a kind that the host defines. -/
  | custom (label script : String) (captured : List Value)
  /-- An item of a sequence or of a mapping that knows its position; the key is null without one. -/
  | eachItem (item : Value) (index : Nat) (last : Bool) (key : Value)
  | filter (filter : Filter) (captured : List Value)
  /-- A function of the host that is not a filter. -/
  | function (label name : String) (captured : List Value)
  deriving Inhabited

namespace Value

/-- The kind of a value, as messages name it. -/
def kind : Value → String
  | .missing => "_Missing"
  | .null => "NoneType"
  | .bool _ => "bool"
  | .int _ => "int"
  | .float _ => "float"
  | .text _ => "str"
  | .markup _ => "Markup"
  | .bytes _ => "bytes"
  | .day _ => "date"
  | .moment _ => "datetime"
  | .list _ => "list"
  | .tuple _ => "tuple"
  | .range .. => "range"
  | .mapping _ => "dict"
  | .object traits _ => traits.label
  | .collection traits .. => traits.label
  | .safeObject label _ | .stream label .. => label
  | .eager .. => "EagerRenderable"
  | .deferred .. | .pending .. => "DeferredRenderable"
  | .custom label .. => label
  | .eachItem .. => "EachItem"
  | .filter f _ => f.kind
  | .function label .. => label

/-- Values that render themselves. -/
def isRenderable : Value → Bool
  | .eager .. | .deferred .. | .pending .. | .custom .. | .eachItem .. => true
  | _ => false

def isMissing : Value → Bool
  | .missing => true
  | _ => false

/-- Plain text, safe or not. -/
def text? : Value → Option String
  | .text s | .markup s => some s
  | _ => none

/-- The passage that a text is. -/
def passage? : Value → Option Passage
  | .text s => some (.plain s)
  | .markup s => some ⟨s, true⟩
  | _ => none

/-- A passage as a value. -/
def ofPassage (p : Passage) : Value := if p.marked then .markup p.text else .text p.text

theorem passage?_ofPassage (p : Passage) : (ofPassage p).passage? = some p := by
  rcases p with ⟨s, _ | _⟩ <;> rfl

/-- The safe text that a value stands for. -/
def markup? : Value → Option String
  | .markup s | .safeObject _ s => some s
  | .collection traits .. => traits.markup
  | _ => none

/-- The number of numbers in a range. -/
def rangeSize (start stop step : Int) : Nat :=
  if 0 < step then ((stop - start + step - 1) / step).toNat
  else if step < 0 then ((start - stop - step - 1) / (-step)).toNat
  else 0

/-- The numbers of a range. -/
def rangeItems (start stop step : Int) : List Value :=
  (List.range (rangeSize start stop step)).map fun (n : Nat) => .int (start + n * step)

/-- What is known of the position of an item, under the names that templates use. -/
def position (index : Nat) (last : Bool) (key : Value) : List (Value × Value) :=
  [(.text "@index", .int index), (.text "@indexPlusOne", .int (index + 1)),
    (.text "@indexIsEven", .bool (index % 2 == 0)), (.text "@first", .bool (index == 0)),
    (.text "@last", .bool last)] ++
  match key with
  | .null => []
  | key => [(.text "@key", key)]

end Value

/-- The items of a sequence: a fixed list, or a stream. -/
inductive Items where
  | fixed (items : List Value)
  | stream (id : Nat) (items : List Value) (ending : Option Failure)

namespace Value

/-- The items that a section goes through. -/
def items? : Value → Option Items
  | .list items | .tuple items | .collection _ items _ => some (.fixed items)
  | .range start stop step => some (.fixed (rangeItems start stop step))
  | .stream _ id items ending => some (.stream id items ending)
  | _ => none

/-- The items whose renderings make up that of a sequence; what stands for safe text needs none. -/
def joinedItems? (v : Value) : Option Items := if v.markup?.isSome then none else v.items?

def isSequence : Value → Bool
  | .list _ | .tuple _ | .collection .. | .range .. | .stream .. => true
  | _ => false

/-- The number of items of a sequence that has a size. -/
def size? : Value → Option Nat
  | .list items | .tuple items | .collection _ items _ => some items.length
  | .range start stop step => some (rangeSize start stop step)
  | _ => none

/-- How many items can be counted. -/
def longestSequence : Nat := 9223372036854775807

/-- Whether the items of a value can be counted, if it has a size. -/
def isCountable (v : Value) : Bool :=
  match v.size? with
  | some n => n ≤ longestSequence
  | none => true

theorem items?_of_joined {v : Value} {items : Items} (h : v.joinedItems? = some items) :
    v.items? = some items := by
  unfold joinedItems? at h
  split at h
  · cases h
  · exact h

theorem isSome_items? (v : Value) : v.items?.isSome = v.isSequence := by
  cases v <;> rfl

/-- The size of a sequence is the number of its items, and streams have none. -/
theorem size?_eq (v : Value) :
    v.size? = v.items?.bind fun
      | .fixed items => some items.length
      | .stream .. => none := by
  cases v <;> simp [size?, items?, rangeItems]

end Value

end Stencil
