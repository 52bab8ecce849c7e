-- From the text to tokens. Deeper lines open lists and mappings, and shallower lines close them. A
-- value in front of a colon is a key only if it began on the same line, so where one begins is kept
-- until the colon is found or ruled out; the tokens for keys are put in afterwards.
import Stencil.Data.Yaml.Block
import Stencil.Data.Yaml.Plain
import Stencil.Data.Yaml.Property
import Stencil.Data.Yaml.Quoted

namespace Stencil.Data.Yaml

/-- A place where a key may have begun. -/
structure KeyStart where
  /-- The number of brackets around it. -/
  depth : Nat
  /-- The number of tokens in front of it. -/
  before : Nat
  /-- Whether a colon has to follow. -/
  required : Bool
  place : Cursor

structure Layout where
  cursor : Cursor
  /-- The columns of the open lists and mappings, innermost first. -/
  indents : List Nat
  /-- The number of open brackets. -/
  depth : Nat
  /-- Whether a key may begin here. -/
  keyAllowed : Bool
  /-- The places where keys may have begun, at most one for each depth. -/
  starts : List KeyStart
  /-- The tokens, latest first, and their number. -/
  tokens : List Token
  count : Nat

namespace Layout

def begun (cs : List Char) : Layout := ⟨.start cs, [], 0, true, [], [], 0⟩

/-- The longest text of a key. -/
def longestKey : Nat := 1024

/-- Outside of brackets. -/
def inBlock (l : Layout) : Bool := l.depth = 0

def emit (l : Layout) (t : Token) : Layout :=
  { l with tokens := t :: l.tokens, count := l.count + 1 }

/-- Puts a token in behind a number of tokens. -/
def putIn (l : Layout) (before : Nat) (t : Token) : Layout :=
  { l with tokens := l.tokens.insertIdx (l.count - before) t, count := l.count + 1 }

/-- Goes on at another place. -/
def goTo (l : Layout) (c : Cursor) : Layout := { l with cursor := c }

/-! ## Indentation -/

/-- Closes lists and mappings while their columns are to be left. -/
def close (l : Layout) (leaves : Nat → Bool) : Layout :=
  if l.inBlock then
    let closed := l.indents.takeWhile leaves
    { l with
      indents := l.indents.dropWhile leaves
      tokens := List.replicate closed.length .blockEnd ++ l.tokens
      count := l.count + closed.length }
  else l

/-- Whether a column is deeper than those of all open lists and mappings. -/
def isDeeper (l : Layout) (column : Nat) : Bool := l.indents.head?.all fun n => n < column

/-- Opens a list or a mapping at a column, if it is deeper; the token is put in behind a number of
tokens. -/
def openAt (l : Layout) (column before : Nat) (t : Token) : Layout :=
  if l.inBlock && l.isDeeper column then
    { l.putIn before t with indents := column :: l.indents }
  else l

/-- The least column of the lines of a scalar. -/
def leastColumn (l : Layout) : Nat := (l.indents.head?.map (· + 1)).getD 0

/-! ## Keys -/

/-- Drops the place where a key of this depth may have begun; a required key may not be dropped. -/
def dropStart (l : Layout) : Reading Layout :=
  if l.starts.any fun s => s.depth = l.depth && s.required then malformed
  else return { l with starts := l.starts.filter fun s => s.depth ≠ l.depth }

/-- Drops the places of keys that are ruled out by now. -/
def dropStale (l : Layout) : Reading Layout :=
  let stale (s : KeyStart) : Bool :=
    s.place.line ≠ l.cursor.line || longestKey < l.cursor.index - s.place.index
  if l.starts.any fun s => stale s && s.required then malformed
  else return { l with starts := l.starts.filter fun s => !stale s }

/-- Keeps this place, where a key may begin. -/
def keepStart (l : Layout) : Reading Layout := do
  if l.keyAllowed then
    let l ← l.dropStart
    let required := l.inBlock && l.indents.head? = some l.cursor.column
    return { l with starts := ⟨l.depth, l.count, required, l.cursor⟩ :: l.starts }
  else return l

/-! ## Tokens -/

/-- The end of the text. -/
def finish (l : Layout) : Reading Layout := (l.close fun _ => true).dropStart

/-- The beginning or the end of a document. -/
def documentMark (l : Layout) (t : Token) : Reading Layout := do
  let l ← (l.close fun _ => true).dropStart
  return { l.emit t with keyAllowed := false, cursor := Cursor.skip 3 l.cursor }

def directiveLine (l : Layout) : Reading Layout := do
  let l ← (l.close fun _ => true).dropStart
  let (token, c) ← directive l.cursor
  return { l.emit token with keyAllowed := false, cursor := c }

def openBracket (l : Layout) (t : Token) : Reading Layout := do
  let l ← l.keepStart
  return { l.emit t with depth := l.depth + 1, keyAllowed := true, cursor := l.cursor.next }

def closeBracket (l : Layout) (t : Token) : Reading Layout := do
  let l ← l.dropStart
  if l.inBlock then malformed
  else return { l.emit t with depth := l.depth - 1, keyAllowed := false, cursor := l.cursor.next }

def comma (l : Layout) : Reading Layout := do
  let l ← l.dropStart
  return { l.emit .comma with keyAllowed := true, cursor := l.cursor.next }

def dash (l : Layout) : Reading Layout := do
  if l.inBlock && !l.keyAllowed then malformed
  else
    let l ← (l.openAt l.cursor.column l.count .blockList).dropStart
    return { l.emit .dash with keyAllowed := true, cursor := l.cursor.next }

/-- A question mark, behind which a key stands. -/
def question (l : Layout) : Reading Layout := do
  if l.inBlock && !l.keyAllowed then malformed
  else
    let l ← (l.openAt l.cursor.column l.count .blockMapping).dropStart
    return { l.emit .key with keyAllowed := l.inBlock, cursor := l.cursor.next }

/-- A colon: what began at the place that was kept is a key; otherwise the key is empty or stands
behind a question mark. -/
def colon (l : Layout) : Reading Layout :=
  match l.starts.find? fun s => s.depth = l.depth with
  | some s =>
    let l := { l with starts := l.starts.filter fun s => s.depth ≠ l.depth }
    let l := (l.putIn s.before .key).openAt s.place.column s.before .blockMapping
    return { l.emit .value with keyAllowed := false, cursor := l.cursor.next }
  | none => do
    if l.inBlock && !l.keyAllowed then malformed
    else
      let l ← (l.openAt l.cursor.column l.count .blockMapping).dropStart
      return { l.emit .value with keyAllowed := l.inBlock, cursor := l.cursor.next }

/-- A token that may begin a key. -/
def start (l : Layout) (read : Cursor → Reading (Token × Cursor)) : Reading Layout := do
  let l ← l.keepStart
  let (token, c) ← read l.cursor
  return { l.emit token with keyAllowed := false, cursor := c }

def anchorWith (make : String → Token) (c : Cursor) : Reading (Token × Cursor) := do
  let (found, c) ← anchorName c
  return (make found, c)

def quotedScalar (c : Cursor) : Reading (Token × Cursor) := do
  let (text, c) ← quoted c
  return (.scalar text false, c)

def blockScalar (l : Layout) (fold : Bool) : Reading Layout := do
  let l ← l.dropStart
  let (text, c) ← block fold (max 1 l.leastColumn) l.cursor.next
  return { l.emit (.scalar text false) with keyAllowed := true, cursor := c }

def plainScalar (l : Layout) : Reading Layout := do
  let l ← l.keepStart
  let (text, c, broken) := plain (!l.inBlock) l.leastColumn l.cursor
  return { l.emit (.scalar text true) with keyAllowed := broken, cursor := c }

/-! ## Steps -/

/-- Goes on to the next token; behind the end of a line a key may begin. The text ahead bounds the
number of lines. -/
def approach : List Char → Layout → Layout
  | [], l => l
  | _ :: fuel, l =>
    let c := l.cursor.skipSpaces
    let c := if c.head? = some '#' then c.skipLine else c
    if endsLine c.head? && c.head?.isSome then
      approach fuel { l with cursor := c.lineEnd.2, keyAllowed := l.keyAllowed || l.inBlock }
    else l.goTo c

/-- The next token, which begins with a character. -/
def token (l : Layout) (ch : Char) : Reading Layout :=
  let c := l.cursor
  let alone := endsWord (c.at? 1)
  if ch = '%' && c.column = 0 then l.directiveLine
  else if c.column = 0 && isDocumentMark c.rest then
    l.documentMark (if ch = '-' then .documentStart else .documentEnd)
  else if ch = '[' then l.openBracket .flowList
  else if ch = '\x7b' then l.openBracket .flowMapping
  else if ch = ']' then l.closeBracket .flowListEnd
  else if ch = '\x7d' then l.closeBracket .flowMappingEnd
  else if ch = ',' then l.comma
  else if ch = '-' && alone then l.dash
  else if ch = '?' && (!l.inBlock || alone) then l.question
  else if ch = ':' && (!l.inBlock || alone) then l.colon
  else if ch = '*' then l.start (anchorWith .alias)
  else if ch = '&' then l.start (anchorWith .anchor)
  else if ch = '!' then l.start tag
  else if (ch = '|' || ch = '>') && l.inBlock then l.blockScalar (ch = '>')
  else if ch = '\'' || ch = '"' then l.start quotedScalar
  else if beginsPlain (!l.inBlock) c then l.plainScalar
  else malformed

/-- All tokens up to the end of the text. -/
def run : Nat → Layout → Reading Layout
  | 0, l => return l
  | fuel + 1, l => do
    let l ← (approach l.cursor.rest l).dropStale
    let l := l.close fun n => l.cursor.column < n
    match l.cursor.head? with
    | none => l.finish
    | some ch => run fuel (← l.token ch)

end Layout

/-- The tokens of a text; a byte order mark at its beginning is passed over. -/
def Token.ofText (cs : List Char) : Reading (List Token) := do
  let l := Layout.begun cs
  let l := if cs.head? = some '\uFEFF' then l.goTo l.cursor.next else l
  let l ← l.run (cs.length + 1)
  return l.tokens.reverse

end Stencil.Data.Yaml
