-- Places in a template source: a line, a column and the name of the template. Both numbers
-- start at one, and columns count characters.

namespace Stencil

structure Location where
  line : Nat
  column : Nat
  template : Option String
  deriving DecidableEq, Repr

namespace Location

/-- The first place of a source. -/
def start (template : Option String) : Location := ⟨1, 1, template⟩

/-- The place behind one character. -/
def next (l : Location) (c : Char) : Location :=
  if c = '\n' then { l with line := l.line + 1, column := 1 } else { l with column := l.column + 1 }

/-- The place behind a text. -/
def after (l : Location) (cs : List Char) : Location := cs.foldl next l

/-- The words for a place: a template without a name, or with an empty one, is not named. -/
def describe (l : Location) : String :=
  match l.template with
  | none | some "" => s!"line {l.line}"
  | some name => s!"{name} line {l.line}"

@[simp] theorem after_nil (l : Location) : l.after [] = l := rfl

@[simp] theorem after_cons (l : Location) (c : Char) (cs : List Char) :
    l.after (c :: cs) = (l.next c).after cs := rfl

@[simp] theorem after_append (l : Location) (a b : List Char) :
    l.after (a ++ b) = (l.after a).after b := List.foldl_append

@[simp] theorem template_next (l : Location) (c : Char) : (l.next c).template = l.template := by
  unfold next
  split <;> rfl

@[simp] theorem template_after (l : Location) (cs : List Char) :
    (l.after cs).template = l.template := by
  induction cs generalizing l with
  | nil => rfl
  | cons c cs ih => simp [ih]

end Location

end Stencil
