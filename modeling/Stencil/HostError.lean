-- Errors that do not belong to templates: those that functions raise, in the library or in the
-- host, and those of texts that look like numbers or days and are none.
import Stencil.Calendar
import Stencil.Text.Numeral
import Stencil.Text.Quoted

namespace Stencil

inductive HostError where
  /-- A text that spells no whole number to a base. -/
  | malformedNumeral (base : Nat) (text : String)
  /-- A text with more digits than a number may have. -/
  | oversizedNumeral (digits : Nat)
  /-- A number with more digits than may be written. -/
  | unwritable
  /-- A sequence with more items than can be counted. -/
  | uncountable
  /-- A text that spells no floating point number. -/
  | noFloat (text : String)
  /-- Numbers that make no day or no moment. -/
  | calendar (flaw : Calendar.Flaw)
  /-- A number that is the code of no character. -/
  | noCharacter
  /-- The first character of an empty text was asked for. -/
  | emptyText
  /-- A text is no key of a table. -/
  | noEntry (key : String)
  /-- A text has not the form of a moment. -/
  | noMoment
  /-- The items of something that has none were asked for. -/
  | noItems (kind : String)
  /-- A function met more arguments than it takes. -/
  | tooManyArguments (function : String) (taken given : Nat)
  /-- A function met fewer arguments than it takes. -/
  | missingArguments (function : String) (parameters : List String)
  /-- A method met more arguments than its receiver. -/
  | methodArguments (method : String) (given : Nat)
  /-- A method met no argument. -/
  | noReceiver (method : String)
  /-- A value cannot be used as a filter. -/
  | noFilter (kind : String)
  /-- A batch without workers. -/
  | noWorkers
  /-- Slices of size zero. -/
  | noStep
  /-- Values of two kinds that have no order. -/
  | unordered (left right : String)
  /-- What a function of the host raised. -/
  | raised (kind text : String)
  deriving DecidableEq, Repr

namespace HostError

/-- The kind of an error, as messages name it. -/
def kind : HostError → String
  | .malformedNumeral .. | .oversizedNumeral _ | .unwritable | .noFloat _ | .calendar _
  | .noCharacter | .noWorkers | .noStep => "ValueError"
  | .emptyText => "IndexError"
  | .noEntry _ => "KeyError"
  | .noMoment => "AttributeError"
  | .uncountable => "OverflowError"
  | .raised kind _ => kind
  | _ => "TypeError"

/-- Names between quotes, joined as in a sentence. -/
def listed : List String → String
  | [] => ""
  | [a] => s!"'{a}'"
  | [a, b] => s!"'{a}' and '{b}'"
  | [a, b, c] => s!"'{a}', '{b}', and '{c}'"
  | a :: rest => s!"'{a}', " ++ listed rest

def counted (n : Nat) (noun : String) : String :=
  s!"{n} {noun}" ++ if n = 1 then "" else "s"

/-- How much of a quoted numeral a message shows. -/
def longestQuote : Nat := 200

/-- The words for a number with too many digits. -/
def digitLimit : String :=
  s!"Exceeds the limit ({Text.longestNumeral} digits) for integer string conversion"

/-- The words for a way out of that. -/
def digitAdvice : String := "use sys.set_int_max_str_digits() to increase the limit"

def text : HostError → String
  | .malformedNumeral base text =>
    s!"invalid literal for int() with base {base}: " ++
      String.ofList ((Text.quoted text).toList.take longestQuote)
  | .oversizedNumeral digits => s!"{digitLimit}: value has {digits} digits; {digitAdvice}"
  | .unwritable => s!"{digitLimit}; {digitAdvice}"
  | .uncountable => "Python int too large to convert to C ssize_t"
  | .noFloat text => "could not convert string to float: " ++ Text.quoted text
  | .calendar flaw => flaw.message
  | .noCharacter => "chr() arg not in range(0x110000)"
  | .emptyText => "string index out of range"
  | .noEntry key => Text.quoted key
  | .noMoment => "'NoneType' object has no attribute 'groupdict'"
  | .noItems kind => s!"each expects a sequence or a mapping, got {kind}"
  | .tooManyArguments function taken given =>
    s!"{function}() takes " ++ counted taken "positional argument" ++ s!" but {given} " ++
      (if given = 1 then "was" else "were") ++ " given"
  | .missingArguments function parameters =>
    s!"{function}() missing " ++
      counted parameters.length "required positional argument" ++ ": " ++ listed parameters
  | .methodArguments method given => s!"{method}() takes no arguments ({given} given)"
  | .noReceiver method => s!"unbound method {method}() needs an argument"
  | .noFilter kind => s!"Cannot use {kind} as a filter"
  | .noWorkers => "max_workers must be greater than 0"
  | .noStep => "range() arg 3 must not be zero"
  | .unordered left right => s!"'<' not supported between instances of '{left}' and '{right}'"
  | .raised _ text => text

end HostError

end Stencil
