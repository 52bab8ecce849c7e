-- The tokens of YAML. Indentation and keys are tokens of their own, so that the grammar does not
-- depend on where they stand.

namespace Stencil.Data.Yaml

inductive Token where
  /-- The version that a directive asks for. -/
  | version (major : Nat)
  /-- A directive that names the beginning of tags by a handle. -/
  | handle (handle uri : String)
  /-- Any other directive. -/
  | reserved
  | documentStart
  | documentEnd
  | blockList
  | blockMapping
  /-- The end of a list or mapping by indentation. -/
  | blockEnd
  | flowList
  | flowListEnd
  | flowMapping
  | flowMappingEnd
  | dash
  | comma
  | key
  | value
  | alias (name : String)
  | anchor (name : String)
  | tag (handle : Option String) (suffix : String)
  | scalar (text : List Char) (plain : Bool)
  deriving DecidableEq, Repr

end Stencil.Data.Yaml
