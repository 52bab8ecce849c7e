-- Tags as the engine meets them, and renderings: what is inserted for a tag, and whether it is
-- safe to insert as it stands.
import Stencil.Passage
import Stencil.Template.Node

namespace Stencil

structure Rendering where
  text : Passage
  safe : Bool
  deriving DecidableEq, Repr

/-- What a tag holds beside its expression and its place. -/
inductive Form where
  | variableTag (escaped : Bool)
  | sectionTag (inverted : Bool) (children : Template) (inner : String)

/-- A tag each time it is rendered. -/
structure Tag where
  /-- The number of tags created before this one. -/
  id : Nat
  head : Head
  form : Form

namespace Tag

def kind (t : Tag) : String :=
  match t.form with
  | .variableTag _ => "variable"
  | .sectionTag inverted _ _ => if inverted then "inverted_section" else "section"

/-- Whether the tag escapes unsafe text. What a section holds is escaped tag by tag, but what a
renderable makes of the section is escaped by the section. -/
def escaped (t : Tag) : Bool :=
  match t.form with
  | .variableTag escaped => escaped
  | .sectionTag .. => true

/-- The source of what a section holds. -/
def inner (t : Tag) : String :=
  match t.form with
  | .variableTag _ => ""
  | .sectionTag _ _ inner => inner

/-- The nodes that a section holds. -/
def children (t : Tag) : Template :=
  match t.form with
  | .variableTag _ => []
  | .sectionTag _ children _ => children

/-- Whether the tag is a section or an inverted one. -/
def isSection (t : Tag) : Bool :=
  match t.form with
  | .variableTag _ => false
  | .sectionTag .. => true

def isInverted (t : Tag) : Bool :=
  match t.form with
  | .variableTag _ => false
  | .sectionTag inverted _ _ => inverted

/-- The words for a tag. -/
def describe (t : Tag) : String :=
  s!"Tag({t.kind} {t.head.expression.text} at {t.head.location.describe})"

end Tag

end Stencil
