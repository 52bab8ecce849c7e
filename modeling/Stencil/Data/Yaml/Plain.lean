-- Scalars without quotes. They end at what could be structure, go on over lines that are deep
-- enough, and hold no tabs.
import Stencil.Data.Yaml.Cursor

namespace Stencil.Data.Yaml

/-- The marks of lists and mappings between brackets. -/
def isBracketMark (c : Char) : Bool := ",[]\x7b\x7d".toList.contains c

/-- A scalar may begin here. -/
def beginsPlain (inside : Bool) (c : Cursor) : Bool :=
  match c.head? with
  | none => false
  | some ch =>
    if endsWord (some ch) then false
    else if ch == '-' then !endsWord (c.at? 1)
    else if ch == '?' || ch == ':' then !inside && !endsWord (c.at? 1)
    else !",[]\x7b\x7d#&*!|>'\"%@\x60".toList.contains ch

/-- The characters up to what ends a piece of a scalar. -/
def plainPiece (inside : Bool) : List Char → List Char
  | [] => []
  | c :: rest =>
    let next := rest.head?
    let endsKey := c == ':' && (endsWord next || (inside && next.any isBracketMark))
    if endsWord (some c) || endsKey || (inside && (c == '?' || isBracketMark c)) then []
    else c :: plainPiece inside rest

/-- What stands between two pieces of a scalar. -/
structure Gap where
  /-- What it means in the text; nothing, if the scalar cannot go on. -/
  text : List Char
  /-- Whether a line ended. -/
  broken : Bool
  behind : Cursor

/-- The empty lines ahead and the place behind them, unless a mark of a document follows one. The
text ahead bounds the number of lines. -/
def emptyLines? : List Char → Cursor → Option (List Char) × Cursor
  | [], c => (some [], c)
  | _ :: fuel, c =>
    let c := c.skipSpaces
    if endsLine c.head? && c.head?.isSome then
      let (ended, c) := c.lineEnd
      if isDocumentMark c.rest then (none, c)
      else
        let (more, c) := emptyLines? fuel c
        (more.map (ended ++ ·), c)
    else (some [], c)

/-- The gap ahead. -/
def gap (c : Cursor) : Gap :=
  let spaces := c.run (· == ' ')
  let c := c.skipSpaces
  if endsLine c.head? && c.head?.isSome then
    let (ended, c) := c.lineEnd
    if isDocumentMark c.rest then ⟨[], true, c⟩
    else
      match emptyLines? c.rest c with
      | (some empty, c) => ⟨folded ended empty, true, c⟩
      | (none, c) => ⟨[], true, c⟩
  else ⟨spaces, false, c⟩

/-- A scalar: its text, the place behind it and whether a line ended there. Outside of brackets its
lines are at least `column` deep. The text ahead bounds the number of pieces. -/
def plainFrom (inside : Bool) (column : Nat) : List Char → Cursor → List Char × Cursor × Bool
  | [], c => ([], c, false)
  | _ :: fuel, c =>
    let piece := plainPiece inside c.rest
    let gap := gap (Cursor.skip piece.length c)
    let c := gap.behind
    if gap.text.isEmpty || c.head? = some '#' || (!inside && c.column < column) ||
        (plainPiece inside c.rest).isEmpty then
      (piece, c, gap.broken)
    else
      let (text, c, broken) := plainFrom inside column fuel c
      (piece ++ gap.text ++ text, c, broken)

@[inherit_doc plainFrom]
def plain (inside : Bool) (column : Nat) (c : Cursor) : List Char × Cursor × Bool :=
  plainFrom inside column c.rest c

end Stencil.Data.Yaml
