-- Evaluating expressions. Arguments are evaluated from left to right and are not rendered; a
-- missing argument is passed as null, or is a fault, as the policy says.
import Stencil.Filter.Apply
import Stencil.Settings.Basic

namespace Stencil

/-- What evaluation needs to know. -/
structure Evaluator (σ : Type) where
  host : Host σ
  policy : MissingPolicy

namespace Evaluator

variable {σ : Type} (ev : Evaluator σ)

/-- A value as an argument. -/
def argument (e : Expr) (v : Value) : Run σ Value :=
  if v.isMissing then
    match ev.policy with
    | .empty => pure .null
    | .fail => Run.failWith (.unresolved e.text)
  else pure v

/-- A callee as a filter, with what it has captured. -/
def callee (e : Expr) : Value → Run σ (Filter × List Value)
  | .filter f captured => pure (f, captured)
  | .missing => Run.failWith (.unresolved e.text)
  | v => Run.failWith (.notFilter e.text v.kind)

mutual

def evaluate (c : Context) : Expr → Run σ Value
  | .name n => Run.ofExcept (c.lookup n)
  | .top => pure c.top
  | .key base k => do
    let v ← evaluate c base
    Run.ofExcept (v.lookup k)
  | .call f a rest => do
    let (filter, captured) ← callee f (← evaluate c f)
    let first ← ev.argument a (← evaluate c a)
    let others ← evaluateArguments c rest
    (filter.apply ev.host captured (first :: others)).wrap (.filterFailed f.text)

def evaluateArguments (c : Context) : List Expr → Run σ (List Value)
  | [] => pure []
  | a :: rest => do
    let first ← ev.argument a (← evaluate c a)
    let others ← evaluateArguments c rest
    return first :: others

end

end Evaluator

end Stencil
