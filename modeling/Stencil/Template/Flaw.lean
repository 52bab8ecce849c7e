-- Why a source is no template, and where it fails to be one.
import Stencil.Expr.Reader
import Stencil.Location

namespace Stencil.Template

inductive Flaw where
  /-- The text of a tag is no expression. -/
  | expression (text : List Char) (flaw : Expr.Flaw)
  /-- A closing tag where no section is open. -/
  | strayClosing (text : List Char)
  /-- A closing tag that names another section than the innermost open one. -/
  | otherClosing (text : List Char) (expected : Expr) (opened : Location)
  /-- A tag that asks for another template. -/
  | inclusion
  /-- A tag that changes the braces. -/
  | delimiters
  /-- A tag without content. -/
  | emptyTag
  /-- A section that is never closed. -/
  | unclosedSection (expression : Expr)
  /-- Opening braces that are never closed. -/
  | unclosedTag
  deriving DecidableEq, Repr

def Flaw.message : Flaw → String
  | .expression text flaw =>
    s!"Invalid expression '{String.ofList (Text.trim text)}': {flaw.message}"
  | .strayClosing text => s!"Unexpected closing tag '{String.ofList text}'"
  | .otherClosing text expected opened =>
    s!"Closing tag '{String.ofList text}' does not match '{expected.text}' opened at " ++
      opened.describe
  | .inclusion => "Partials are not supported"
  | .delimiters => "Delimiter changes are not supported"
  | .emptyTag => "Empty tag"
  | .unclosedSection e => s!"Unclosed section '{e.text}'"
  | .unclosedTag => "Unclosed tag"

/-- A flaw and its place. -/
structure Rejection where
  flaw : Flaw
  location : Location
  deriving DecidableEq, Repr

end Stencil.Template
