-- Contexts: stacks of scopes, innermost first. A scope holds a value and named filters that share
-- one namespace, in which the value comes first. A context never changes.
import Stencil.Value.Key

namespace Stencil

structure Scope where
  value : Value
  filters : List (String × Value)

/-- What a scope gives for a name. -/
def Scope.lookup (s : Scope) (name : String) : Except HostError Value := do
  let found ← s.value.lookup name
  return if found.isMissing then (s.filters.lookup name).getD .missing else found

structure Context where
  scopes : List Scope

namespace Context

def empty : Context := ⟨[]⟩

/-- The context with a value, and filters beside it, innermost. -/
def push (c : Context) (value : Value) (filters : List (String × Value)) : Context :=
  ⟨⟨value, filters⟩ :: c.scopes⟩

/-- The context with a scope of filters only, innermost. -/
def withFilters (c : Context) (filters : List (String × Value)) : Context :=
  c.push .missing filters

/-- A context of filters, if there are any, and of data, unless it is missing or null. -/
def root (data : Value) (filters : List (String × Value)) : Context :=
  let base := if filters.isEmpty then empty else empty.withFilters filters
  match data with
  | .missing | .null => base
  | data => base.push data []

/-- The enclosing context; the empty one encloses itself. -/
def pop (c : Context) : Context := ⟨c.scopes.tail⟩

def depth (c : Context) : Nat := c.scopes.length

/-- The innermost value that is not missing. -/
def topOf : List Scope → Value
  | [] => .missing
  | s :: rest => if s.value.isMissing then topOf rest else s.value

@[inherit_doc topOf]
def top (c : Context) : Value := topOf c.scopes

/-- The value of a name in the nearest scope that gives one. -/
def lookupIn (name : String) : List Scope → Except HostError Value
  | [] => .ok .missing
  | s :: rest => do
    let found ← s.lookup name
    if found.isMissing then lookupIn name rest else return found

@[inherit_doc lookupIn]
def lookup (c : Context) (name : String) : Except HostError Value := lookupIn name c.scopes

end Context

end Stencil
