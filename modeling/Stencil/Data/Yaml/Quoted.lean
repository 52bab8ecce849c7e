-- Scalars in quotes. Between single quotes only the quote itself is written in another way,
-- between double quotes backslashes introduce characters. Lines are folded in both.
import Stencil.Data.Flaw
import Stencil.Data.Json.Reader
import Stencil.Data.Yaml.Cursor

namespace Stencil.Data.Yaml

/-- What letters behind a backslash stand for. -/
def escapes : List (Char × Char) := [
  ('0', '\x00'), ('a', '\x07'), ('b', '\x08'), ('t', '\t'), ('\t', '\t'), ('n', '\n'),
  ('v', '\x0b'), ('f', '\x0c'), ('r', '\r'), ('e', '\x1b'), (' ', ' '), ('"', '"'), ('\\', '\\'),
  ('/', '/'), ('N', '\u0085'), ('_', '\u00A0'), ('L', '\u2028'), ('P', '\u2029')]

/-- How many digits to base sixteen follow a letter behind a backslash. -/
def codeWidths : List (Char × Nat) := [('x', 2), ('u', 4), ('U', 8)]

/-- The character with a code; a half of a surrogate pair is none and is replaced. -/
def character (code : Nat) : Reading Char :=
  if code.isValidChar then return Char.ofNat code
  else if code < 0x110000 then return '\uFFFD'
  else refuse .noCharacter

/-- The empty lines ahead; no document may begin or end in a scalar. The text ahead bounds the
number of lines. -/
def foldedLines : List Char → Cursor → Reading (List Char × Cursor)
  | [], c => return ([], c)
  | _ :: fuel, c =>
    if isDocumentMark c.rest then malformed
    else
      let c := c.skipWhile isPad
      if endsLine c.head? && c.head?.isSome then do
        let (ended, c) := c.lineEnd
        let (more, c) ← foldedLines fuel c
        return (ended ++ more, c)
      else return ([], c)

/-- What a backslash in front of the place introduces. -/
def escaped (c : Cursor) : Reading (List Char × Cursor) :=
  match c.head? with
  | none => malformed
  | some ch =>
    match escapes.lookup ch, codeWidths.lookup ch with
    | some meant, _ => return ([meant], c.next)
    | none, some width => do
      let digits := c.next.rest.take width
      let code ← demand (if digits.length = width then Json.hexNumber? digits else none)
      return ([← character code], Cursor.skip (width + 1) c)
    | none, none => if isBreak ch then foldedLines c.rest c.lineEnd.2 else malformed

/-- The blanks ahead, or the end of the line and the empty lines behind it. -/
def quotedGap (c : Cursor) : Reading (List Char × Cursor) :=
  let pads := c.run isPad
  let c := c.skipWhile isPad
  match c.head? with
  | none => malformed
  | some ch =>
    if isBreak ch then do
      let (ended, c) := c.lineEnd
      let (empty, c) ← foldedLines c.rest c
      return (folded ended empty, c)
    else return (pads, c)

/-- The text up to the closing quote, and the place behind it. The text ahead bounds the number of
pieces. -/
def quotedFrom (double : Bool) : List Char → Cursor → Reading (List Char × Cursor)
  | [], _ => malformed
  | _ :: fuel, c =>
    match c.head? with
    | none => malformed
    | some ch => do
      if ch = (if double then '"' else '\'') then
        if !double && c.at? 1 = some '\'' then
          let (text, behind) ← quotedFrom double fuel c.next.next
          return ('\'' :: text, behind)
        else return ([], c.next)
      else
        let (piece, c) ←
          if isBreak ch || isPad ch then quotedGap c
          else if double && ch == '\\' then escaped c.next
          else pure ([ch], c.next)
        let (text, behind) ← quotedFrom double fuel c
        return (piece ++ text, behind)

/-- A scalar whose opening quote is ahead. -/
def quoted (c : Cursor) : Reading (List Char × Cursor) :=
  quotedFrom (c.head? = some '"') c.rest c.next

end Stencil.Data.Yaml
