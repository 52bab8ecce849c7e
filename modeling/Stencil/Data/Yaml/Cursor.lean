-- Places in a YAML text: what lies ahead, and the line and the column that were reached. Beside
-- the line ends of ASCII there are three others.
import Stencil.Text.Mark

namespace Stencil.Data.Yaml

/-! ## Characters -/

def isBreak (c : Char) : Bool :=
  c == '\n' || c == '\r' || c == '\u0085' || c == '\u2028' || c == '\u2029'

/-- A space or a tab. -/
def isPad (c : Char) : Bool := c == ' ' || c == '\t'

/-- The line ends in front of what lies ahead. -/
def endsLine : Option Char → Bool
  | none => true
  | some c => isBreak c

/-- The line ends, or a space or a tab lies ahead. -/
def endsWord : Option Char → Bool
  | none => true
  | some c => isBreak c || isPad c

/-- The line ends, or a space lies ahead. -/
def endsProperty : Option Char → Bool
  | none => true
  | some c => isBreak c || c == ' '

/-- The beginning of a line that marks where a document begins or ends. -/
def isDocumentMark (cs : List Char) : Bool :=
  ["---", "..."].any fun mark =>
    match Text.behind? mark.toList cs with
    | some rest => endsWord rest.head?
    | none => false

/-! ## Places -/

structure Cursor where
  rest : List Char
  /-- The number of characters behind. -/
  index : Nat
  line : Nat
  column : Nat

namespace Cursor

def start (cs : List Char) : Cursor := ⟨cs, 0, 0, 0⟩

/-- The character ahead. -/
def head? (c : Cursor) : Option Char := c.rest.head?

/-- The character at a distance. -/
def at? (c : Cursor) (n : Nat) : Option Char := c.rest[n]?

/-- The place behind the next character. A carriage return in front of a line feed does not end the
line, and a byte order mark takes no column. -/
def next (c : Cursor) : Cursor :=
  match c.rest with
  | [] => c
  | ch :: rest =>
    if isBreak ch && !(ch == '\r' && rest.head? == some '\n') then
      ⟨rest, c.index + 1, c.line + 1, 0⟩
    else ⟨rest, c.index + 1, c.line, if ch == '\uFEFF' then c.column else c.column + 1⟩

/-- The place some characters further. -/
def skip : Nat → Cursor → Cursor
  | 0, c => c
  | n + 1, c => skip n c.next

/-- The characters ahead that belong to a class. -/
def run (p : Char → Bool) (c : Cursor) : List Char := c.rest.takeWhile p

/-- The place behind the characters of a class. -/
def skipWhile (p : Char → Bool) (c : Cursor) : Cursor := skip (c.run p).length c

def skipSpaces (c : Cursor) : Cursor := c.skipWhile (· == ' ')

/-- The place at the end of the line. -/
def skipLine (c : Cursor) : Cursor := c.skipWhile fun ch => !isBreak ch

/-- The end of a line, if it is reached: what it means in a text, and the place behind it. The ends
of ASCII and the next line character all mean a line feed, the separators stand for themselves. -/
def lineEnd (c : Cursor) : List Char × Cursor :=
  match c.rest with
  | [] => ([], c)
  | '\r' :: '\n' :: _ => (['\n'], c.next.next)
  | ch :: _ =>
    if ch == '\u2028' || ch == '\u2029' then ([ch], c.next)
    else if isBreak ch then (['\n'], c.next)
    else ([], c)

/-- The place behind a rest of a line that holds nothing but a comment. -/
def skipVoid? (c : Cursor) : Option Cursor :=
  let c := c.skipSpaces
  let c := if c.head? = some '#' then c.skipLine else c
  if endsLine c.head? then some c.lineEnd.2 else none

end Cursor

/-- What the end of a line and the empty lines behind it mean inside a scalar: a single line feed
becomes a space. -/
def folded (ended empty : List Char) : List Char :=
  (if ended ≠ ['\n'] then ended else if empty.isEmpty then [' '] else []) ++ empty

end Stencil.Data.Yaml
