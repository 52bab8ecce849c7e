-- The names that a template mentions. A name is read as a value unless it stands at the head of
-- the path of a filter that the same tag calls; filters go by the written form of their paths.
import Stencil.Template.Node

namespace Stencil

/-- A list of names, each once, in the order of their characters. -/
def distinct (names : List String) : List String :=
  names.eraseDups.mergeSort fun a b => a ≤ b

namespace Expr

/-- What is called in an expression. -/
def callees (e : Expr) : List Expr :=
  e.parts.filterMap fun
    | .call f _ _ => some f
    | _ => none

/-- The expressions that stand in what is called, each call included. -/
def calleeParts (e : Expr) : List Expr := e.callees.flatMap parts

/-- The names that an expression mentions at any place. -/
def names (e : Expr) : List String :=
  e.parts.filterMap fun
    | .name n => some n
    | _ => none

/-- The names that an expression reads as values. -/
def valueNames (e : Expr) : List String := e.names.filter fun n => .name n ∉ e.calleeParts

/-- The written forms of the filters that an expression calls. -/
def filterNames (e : Expr) : List String := e.callees.map text

end Expr

namespace Template

/-- The names that the tags of a template read as values. -/
def valueNames (t : Template) : List String :=
  distinct (t.heads.flatMap fun h => h.expression.valueNames)

/-- The filters that the tags of a template call. -/
def filterNames (t : Template) : List String :=
  distinct (t.heads.flatMap fun h => h.expression.filterNames)

end Template

end Stencil
