-- Template trees: text, variable tags and section tags. A section holds its content as nodes
-- and also as source, so that its content can be read again.
import Stencil.Expr.Basic
import Stencil.Location

namespace Stencil

/-- What every tag has. -/
structure Head where
  expression : Expr
  location : Location
  deriving DecidableEq, Repr

inductive Node where
  /-- Text that is inserted as it stands. -/
  | text (content : String)
  /-- A tag that inserts a value, escaped or not. -/
  | variableTag (head : Head) (escaped : Bool)
  /-- A section, or an inverted one, with its content as nodes and as source. -/
  | sectionTag (head : Head) (inverted : Bool) (children : List Node) (inner : String)
  deriving Repr

/-- A template that has been read. -/
abbrev Template := List Node

namespace Node

mutual

/-- The tags of a node in the order of the source, a section before its content. -/
def tags : Node → List Node
  | .text _ => []
  | t@(.variableTag _ _) => [t]
  | t@(.sectionTag _ _ children _) => t :: tagsList children

def tagsList : List Node → List Node
  | [] => []
  | n :: rest => n.tags ++ tagsList rest

end

theorem tags_subset {n : Node} {t : Template} (h : n ∈ t) : n.tags ⊆ tagsList t := by
  induction t with
  | nil => cases h
  | cons m rest ih =>
    rw [tagsList]
    rcases List.mem_cons.1 h with rfl | h
    · exact List.subset_append_left _ _
    · exact List.subset_append_of_subset_right _ (ih h)

mutual

/-- The most sections that stand inside each other. -/
def depth : Node → Nat
  | .sectionTag _ _ children _ => 1 + depthList children
  | _ => 0

def depthList : List Node → Nat
  | [] => 0
  | n :: rest => max n.depth (depthList rest)

end

/-- The expression and the place of a tag. -/
def head? : Node → Option Head
  | .text _ => none
  | .variableTag head _ | .sectionTag head _ _ _ => some head

end Node

namespace Template

/-- The tags of a template in the order of its source. -/
def tags (t : Template) : List Node := Node.tagsList t

/-- What the tags of a template have in common, in the order of its source. -/
def heads (t : Template) : List Head := t.tags.filterMap Node.head?

/-- The most sections that stand inside each other. -/
def depth (t : Template) : Nat := Node.depthList t

end Template

end Stencil
