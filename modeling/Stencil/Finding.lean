-- What checks find in a template before it is rendered: findings, which make it invalid, and
-- warnings, which do not.
import Stencil.Fault
import Stencil.Template.Node

namespace Stencil

inductive Finding where
  | empty
  /-- The template is longer than allowed. -/
  | tooLong (length : Nat) (longest : Int)
  | syntaxFlaw (rejection : Template.Rejection)
  /-- A filter is called that nobody provides. -/
  | unknownFilter (name : String)
  /-- Names are read that nobody provides. -/
  | undefined (names : List String)
  deriving DecidableEq, Repr

/-- Names in a row, separated by commas. -/
def commaSeparated (names : List String) : String := ", ".intercalate names

def Finding.message : Finding → String
  | .empty => "Template cannot be empty"
  | .tooLong length longest =>
    s!"Template exceeds maximum length ({length} > " ++ Text.numeral longest ++ ")"
  | .syntaxFlaw r => "Syntax error: " ++ (Fault.ofRejection r).message
  | .unknownFilter name => s!"Unknown filter '{name}'"
  | .undefined names => "Template uses undefined variables: " ++ commaSeparated names

inductive Warning where
  /-- Names are provided that the template does not mention. -/
  | unused (names : List String)
  /-- A tag inserts its value without escaping. -/
  | unescaped (tag : Head)
  | longLine (number length : Nat)
  | deepSections (depth : Nat)
  | deepCalls (tag : Head) (depth : Nat)
  deriving DecidableEq, Repr

def Warning.message : Warning → String
  | .unused names => "Template does not use all available variables: " ++ commaSeparated names
  | .unescaped tag =>
    s!"Potential issue: '{tag.expression.text}' at {tag.location.describe} bypasses HTML escaping"
  | .longLine number length => s!"Line {number} is very long ({length} chars)"
  | .deepSections depth => s!"Deep section nesting detected (level {depth})"
  | .deepCalls tag depth =>
    s!"Filter chain '{tag.expression.text}' at {tag.location.describe} nests {depth} calls " ++
      "and may be hard to maintain"

end Stencil
