-- The standard library of filters, and named filters in general: a list of names and values in the
-- order in which they were added. A mapping among them is a namespace of further filters.
import Stencil.Sorting
import Stencil.Value.Literal
import Stencil.Value.Order

namespace Stencil

/-- Named filters, each name once. -/
abbrev Filters := List (String × Value)

namespace Filters

/-- The filters with a value under a name: in place if the name is there, else at the end. -/
def put (name : String) (value : Value) : Filters → Filters
  | [] => [(name, value)]
  | (n, v) :: rest => if n = name then (n, value) :: rest else (n, v) :: put name value rest

/-- The filters with others put over them. -/
def merge (filters front : Filters) : Filters :=
  front.foldl (fun all (name, value) => all.put name value) filters

/-- The filters with others added whose names are not there yet. -/
def addMissing (filters more : Filters) : Filters :=
  more.foldl (fun all (name, value) =>
    if (all.lookup name).isSome then all else all.put name value) filters

/-- What a dotted name names: the first part stands among the filters, the others are keys of
namespaces. -/
def resolve? (filters : Filters) (dotted : String) : Option Value :=
  match (dotted.toList.splitOn '.').map String.ofList with
  | [] => none
  | head :: keys => do
    let found ← filters.lookup head
    keys.foldlM
      (fun value key =>
        match value with
        | .mapping entries => Value.find? key entries
        | _ => none)
      found

/-- What the keys of a namespace stand for, in the order of the keys. -/
def inOrder (lists : List (Value × Except HostError (List String))) :
    Except HostError (List String) := do
  let sorted ← Sorting.sort (fun a b => a.1.before b.1) lists
  return (← sorted.mapM Prod.snd).flatten

mutual

/-- The dotted names of the filters in a value that stands under a name. -/
def namesIn (name : String) : Value → Except HostError (List String)
  | .filter _ _ => .ok [name]
  | .mapping entries => inOrder (namesInEntries (name ++ ".") entries)
  | _ => .ok []

/-- The same for the entries of a namespace, whose dotted names all begin alike. -/
def namesInEntries (before : String) :
    List (Value × Value) → List (Value × Except HostError (List String))
  | [] => []
  | (key, value) :: rest =>
    (key, namesIn (before ++ key.keyText) value) :: namesInEntries before rest

end

/-- The dotted names of all filters, those of a namespace together; there are none if the keys of a
namespace have no order. -/
def names (filters : Filters) : Except HostError (List String) :=
  inOrder (filters.map fun (name, value) => (.text name, namesIn name value))

end Filters

namespace Library

/-- A function on texts as a filter. -/
def ofText (f : TextFunction) : Value := .filter (.textual (.library f)) []

/-- A function on values as a filter. -/
def ofValue (f : ValueFunction) : Value := .filter (.generic (.library f)) []

/-- A namespace with one filter, which escapes. -/
def escapes (f : TextFunction) : Value := .mapping [(.text "escape", ofText f)]

/-- The filters that every template may call. -/
def standard : Filters := [
  ("uppercase", ofText .upper),
  ("lowercase", ofText .lower),
  ("capitalized", ofText .capitalized),
  ("isEmpty", ofValue .isEmpty),
  ("isBlank", ofValue .isBlank),
  ("each", ofValue .each),
  ("HTML", escapes .escapeMarkup),
  ("URL", escapes .escapePercent),
  ("javascript", escapes .escapeScript)]

end Library

end Stencil
