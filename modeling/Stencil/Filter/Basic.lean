-- Filters, by the shape of the call: a filter takes the values of its arguments, the texts they
-- render to, or the list of them. Behind it stands a function of the library or of the host.

namespace Stencil

/-- The functions of the library on texts. -/
inductive TextFunction where
  | upper
  | lower
  | capitalized
  | escapeMarkup
  | escapePercent
  | escapeScript
  deriving DecidableEq, Repr

/-- The functions of the library on values. -/
inductive ValueFunction where
  | isEmpty
  | isBlank
  | each
  deriving DecidableEq, Repr

/-- What stands behind a filter: a function of the library, or one that the host knows by name. -/
inductive Body (Function : Type) where
  | library (function : Function)
  | host (name : String)
  deriving DecidableEq, Repr

inductive Filter where
  /-- The function takes the values of the arguments. -/
  | generic (body : Body ValueFunction)
  /-- The function takes the texts of the arguments, once the tag is rendered. -/
  | textual (body : Body TextFunction)
  /-- The function takes one list of all arguments. -/
  | variadic (function : String)
  /-- A filter that the host defines as a whole; the label names its kind. -/
  | custom (label function : String)
  deriving DecidableEq, Repr

/-- The name by which messages call a function. -/
def TextFunction.name : TextFunction → String
  | .upper => "upper"
  | .lower => "lower"
  | .capitalized => "capitalized"
  | .escapeMarkup => "escape"
  | .escapePercent => "url_escape"
  | .escapeScript => "javascript_escape"

@[inherit_doc TextFunction.name]
def ValueFunction.name : ValueFunction → String
  | .isEmpty => "is_empty"
  | .isBlank => "is_blank"
  | .each => "each"

namespace Filter

/-- The kind of a filter, as messages name it. -/
def kind : Filter → String
  | .generic _ => "GenericFilter"
  | .textual _ => "StringFilter"
  | .variadic _ => "VariadicFilter"
  | .custom label _ => label

/-- The text of a filter that is rendered instead of called. -/
def text : Filter → String
  | .custom label _ => label
  | f@(.generic (.library function)) => s!"{f.kind}({function.name})"
  | f@(.textual (.library function)) => s!"{f.kind}({function.name})"
  | f@(.generic (.host name)) | f@(.textual (.host name)) | f@(.variadic name) =>
    s!"{f.kind}({name})"

end Filter

end Stencil
