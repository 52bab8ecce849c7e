-- The functions of the library: on texts, and on values. Each takes one argument, and the wrong
-- number of arguments is an error of the call.
import Stencil.Run
import Stencil.Text.Case
import Stencil.Text.Markup
import Stencil.Text.Percent
import Stencil.Text.Script
import Stencil.Value.Truth

namespace Stencil

namespace TextFunction

/-- What a function makes of a passage. Escaping for a page makes the text safe; the other
functions make plain text, but escaping for a link leaves an empty text and its mark as they are. -/
def apply : TextFunction → Passage → Value
  | .upper, p => .text (String.ofList (Text.upper p.text.toList))
  | .lower, p => .text (String.ofList (Text.lower p.text.toList))
  | .capitalized, p => .text (String.ofList (Text.capitalized p.text.toList))
  | .escapeMarkup, p => .markup p.escaped
  | .escapePercent, p => if p.text = "" then .ofPassage p else .text (Text.escapePercent p.text)
  | .escapeScript, p => .text (Text.escapeScript p.text)

/-- The name of the only parameter. -/
def parameter : TextFunction → String
  | .escapeMarkup => "s"
  | _ => "text"

/-- The error of a call with another number of arguments than one. The two case mappings are
methods of texts, the others are functions. -/
def arityError (f : TextFunction) (given : Nat) : HostError :=
  match f with
  | .upper | .lower =>
    if given = 0 then .noReceiver s!"str.{f.name}"
    else .methodArguments s!"str.{f.name}" (given - 1)
  | f =>
    if given = 0 then .missingArguments f.name [f.parameter] else .tooManyArguments f.name 1 given

def call (f : TextFunction) : List Passage → Except HostError Value
  | [p] => .ok (f.apply p)
  | passages => .error (f.arityError passages.length)

end TextFunction

namespace Library

/-- Items with their positions, from the one with the given index on. -/
def numbered (index : Nat) : List (Value × Value) → List Value
  | [] => []
  | (key, item) :: rest => .eachItem item index rest.isEmpty key :: numbered (index + 1) rest

/-- The items of a sequence or of a mapping, each with its position; nothing has no items. -/
def each {σ : Type} (v : Value) : Run σ (List Value) :=
  match v with
  | .missing | .null => pure []
  | .mapping entries => pure (numbered 0 entries)
  | v =>
    match v.items? with
    | some items => do return numbered 0 ((← Run.eachItem pure items).map fun item => (.null, item))
    | none => Run.fail (.host (.noItems v.kind))

end Library

namespace ValueFunction

/-- What a function makes of a value; a sequence with more items than can be counted is refused. -/
def apply {σ : Type} (f : ValueFunction) (v : Value) : Run σ Value :=
  if v.isCountable then
    match f with
    | .isEmpty => pure (.bool v.isEmpty)
    | .isBlank => pure (.bool v.isBlank)
    | .each => return .list (← Library.each v)
  else Run.fail (.host .uncountable)

def call {σ : Type} (f : ValueFunction) : List Value → Run σ Value
  | [v] => f.apply v
  | [] => Run.fail (.host (.missingArguments f.name ["value"]))
  | values => Run.fail (.host (.tooManyArguments f.name 1 values.length))

end ValueFunction

end Stencil
