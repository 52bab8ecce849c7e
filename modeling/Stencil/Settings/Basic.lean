-- Settings of a rendering: how unsafe text is escaped, what a missing value means, which filters
-- are at hand, how many templates are kept, and the name that places carry.
import Stencil.Passage

namespace Stencil

inductive ContentType where
  | html
  | text
  deriving DecidableEq, Repr

namespace ContentType

def all : List ContentType := [.html, .text]

def name : ContentType → String
  | .html => "html"
  | .text => "text"

/-- What becomes of unsafe text: in a page it is escaped, plain text stays as it is. -/
def escape : ContentType → Passage → Passage
  | .html => fun p => .plain p.escaped
  | .text => id

end ContentType

/-- What a value that is not there means: nothing, or a fault. -/
inductive MissingPolicy where
  | empty
  | fail
  deriving DecidableEq, Repr

namespace MissingPolicy

def all : List MissingPolicy := [.empty, .fail]

def name : MissingPolicy → String
  | .empty => "empty"
  | .fail => "fail"

end MissingPolicy

structure Settings where
  contentType : ContentType := .html
  missing : MissingPolicy := .empty
  standardLibrary : Bool := true
  cacheSize : Nat := 128
  templateName : Option String := none
  deriving DecidableEq, Repr

end Stencil
