-- Why a text spells no value: it is not written as data are, or something in it that looks like a
-- number or a day is none.
import Stencil.HostError

namespace Stencil.Data

inductive Flaw where
  | malformed
  | error (error : HostError)
  deriving DecidableEq, Repr

/-- What a text spells, or why it spells nothing. -/
abbrev Reading := Except Flaw

/-- The flaw of a text that is not written as data are. -/
def malformed {α : Type} : Reading α := .error .malformed

/-- The flaw of something that looks like a number or a day. -/
def refuse {α : Type} (e : HostError) : Reading α := .error (.error e)

/-- What must be there. -/
def demand {α : Type} : Option α → Reading α
  | some a => .ok a
  | none => malformed

end Stencil.Data
