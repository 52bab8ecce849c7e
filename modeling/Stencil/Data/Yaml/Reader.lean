-- Reading YAML: from trees to values. A mapping may take entries from other mappings, which its
-- own entries go before; keys have to be values that can be compared.
import Stencil.Data.Yaml.Layout
import Stencil.Data.Yaml.Node
import Stencil.Value.Equality

namespace Stencil.Data.Yaml

namespace Node

def isMapping : Node → Bool
  | .mapping _ _ => true
  | _ => false

/-- Whether a mapping may take entries from here: a mapping or a list of mappings. -/
def isSource : Node → Bool
  | .mapping _ _ => true
  | .list _ items => items.all isMapping
  | .scalar _ _ => false

/-- Whether all entries that a mapping takes from elsewhere are those of mappings. -/
def canTake (entries : List (Node × Node)) : Bool :=
  entries.all fun (key, n) => key.kind ≠ .merge || n.isSource

/-- Values that can be keys. -/
def isKey : Value → Bool
  | .list _ | .mapping _ | .collection .. => false
  | _ => true

/-- The keys of entries as a set. -/
def setOf (entries : List (Value × Value)) : Value :=
  .collection ⟨"set", false, none, none, []⟩ (entries.map Prod.fst) []

/-- Entries put into others, in place where their keys are there. -/
def putAll (entries front : List (Value × Value)) : List (Value × Value) :=
  front.foldl (fun all (key, value) => Value.insert key value all) entries

/-- The scalar that a mapping stands for where a scalar is wanted: its default value. -/
def defaultText? (entries : List (Node × Node)) : Option (List Char) :=
  match entries.find? fun (key, _) => key.kind = .default with
  | some (_, .scalar _ text) => some text
  | _ => none

/-- The entries of a mapping, those taken from elsewhere in front. -/
def joined (parts : List (Value × Value) × List (Value × Value)) : List (Value × Value) :=
  putAll (putAll [] parts.1) parts.2

mutual

/-- The value of a tree. -/
def value : Node → Reading Value
  | .scalar kind text => scalarValue kind text
  | .list kind items =>
    match kind with
    | .list => .list <$> values items
    | .pairs => .list <$> pairs items
    | _ => malformed
  | .mapping kind entries =>
    match kind with
    | .mapping => if canTake entries then (.mapping ∘ joined) <$> parts entries else malformed
    | .set => if canTake entries then (setOf ∘ joined) <$> parts entries else malformed
    | .list | .pairs => malformed
    | kind =>
      match defaultText? entries with
      | some text => scalarValue kind text
      | none => malformed

def values : List Node → Reading (List Value)
  | [] => return []
  | n :: rest => do
    let first ← value n
    return first :: (← values rest)

/-- Mappings with one entry each, as pairs. -/
def pairs : List Node → Reading (List Value)
  | [] => return []
  | .mapping _ [(key, n)] :: rest => do
    let k ← value key
    let v ← value n
    return .tuple [k, v] :: (← pairs rest)
  | _ => malformed

/-- The entries that a mapping takes from elsewhere, and those that it has by itself. -/
def parts : List (Node × Node) → Reading (List (Value × Value) × List (Value × Value))
  | [] => return ([], [])
  | (key, n) :: rest => do
    if key.kind = .merge then
      let found ← source n
      let (taken, own) ← parts rest
      return (found ++ taken, own)
    else
      let k ← if key.kind = .default then pure (.text "=") else value key
      if isKey k then
        let v ← value n
        let (taken, own) ← parts rest
        return (taken, (k, v) :: own)
      else malformed

/-- The entries of a mapping, or of mappings, of which the first go before the others. -/
def source : Node → Reading (List (Value × Value))
  | .mapping _ entries => if canTake entries then joined <$> parts entries else malformed
  | .list _ items => sources items
  | .scalar _ _ => malformed

def sources : List Node → Reading (List (Value × Value))
  | [] => return []
  | n :: rest => do
    let front ← source n
    return (← sources rest) ++ front

end

end Node

/-- The characters that a document may hold. -/
def isAllowed (c : Char) : Bool :=
  let n := c.toNat
  n == 9 || n == 10 || n == 13 || (32 ≤ n && n ≤ 126) || n == 0x85 || (0xA0 ≤ n && n ≤ 0xFFFD) ||
    0x10000 ≤ n

/-- The value that a text spells; an empty one spells null. -/
def read (cs : List Char) : Reading Value := do
  if cs.all isAllowed then
    match ← Node.ofTokens (← Token.ofText cs) with
    | some n => n.value
    | none => return .null
  else malformed

end Stencil.Data.Yaml
