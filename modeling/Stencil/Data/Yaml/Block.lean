-- Scalars in blocks: the lines below a bar stand for themselves, those below an angle are folded.
-- A header says how deep the lines are and what becomes of the line ends behind them.
import Stencil.Data.Flaw
import Stencil.Data.Yaml.Cursor

namespace Stencil.Data.Yaml

/-- What becomes of the line ends at the end of a scalar: none stays, one, or all. -/
inductive Chomping where
  | strip
  | clip
  | keep
  deriving DecidableEq, Repr

def chomping? : Option Char → Option Chomping
  | some '-' => some .strip
  | some '+' => some .keep
  | _ => none

/-- A digit that says how much deeper the lines are. -/
def depth? : Option Char → Option Nat
  | some c => if c.isDigit then some (c.toNat - 48) else none
  | none => none

/-- The header of a block: the chomping and the depth of its lines, in any order. -/
def blockHeader (c : Cursor) : Reading (Chomping × Option Nat × Cursor) := do
  let (chomping, depth, c) :=
    match chomping? c.head?, depth? c.head? with
    | some chomping, _ =>
      match depth? (c.at? 1) with
      | some depth => (chomping, some depth, c.next.next)
      | none => (chomping, none, c.next)
    | none, some depth =>
      match chomping? (c.at? 1) with
      | some chomping => (chomping, some depth, c.next.next)
      | none => (.clip, some depth, c.next)
    | none, none => (.clip, none, c)
  if depth = some 0 || !endsProperty c.head? then malformed
  else return (chomping, depth, ← demand c.skipVoid?)

/-- The place behind the spaces ahead, at a column at most. -/
def indentTo (column : Nat) (c : Cursor) : Cursor :=
  Cursor.skip (min (column - c.column) (c.run (· == ' ')).length) c

/-- The empty lines ahead, the greatest column in them, and the place behind them. The text ahead
bounds the number of lines, here and below. -/
def leadingLines : List Char → Cursor → List Char × Nat × Cursor
  | [], c => ([], c.column, c)
  | _ :: fuel, c =>
    let c := c.skipSpaces
    if endsLine c.head? && c.head?.isSome then
      let (ended, next) := c.lineEnd
      let (more, column, behind) := leadingLines fuel next
      (ended ++ more, max c.column column, behind)
    else ([], c.column, c)

/-- The line ends ahead, and the place behind them and the spaces up to a column. -/
def emptyBlockLines (column : Nat) : List Char → Cursor → List Char × Cursor
  | [], c => ([], c)
  | _ :: fuel, c =>
    let c := indentTo column c
    if endsLine c.head? && c.head?.isSome then
      let (ended, c) := c.lineEnd
      let (more, c) := emptyBlockLines column fuel c
      (ended ++ more, c)
    else ([], c)

/-- What lies between two lines: its own line end stays, but between two lines that begin with no
blank a line feed is folded. -/
def between (fold : Bool) (line ended empty : List Char) (next : Option Char) : List Char :=
  if fold && ended = ['\n'] && !line.head?.any isPad && !next.any isPad then
    if empty.isEmpty then [' '] else []
  else ended

/-- The lines at a column: their text, the end of the last one, the line ends behind it, and the
place behind all that. -/
def blockLines (fold : Bool) (column : Nat) : List Char → Cursor →
    List Char × List Char × List Char × Cursor
  | [], c => ([], [], [], c)
  | _ :: fuel, c =>
    let line := c.run fun ch => !isBreak ch
    let (ended, c) := c.skipLine.lineEnd
    let (empty, c) := emptyBlockLines column c.rest c
    if c.column = column && c.head?.isSome then
      let (text, last, behind, next) := blockLines fold column fuel c
      (line ++ between fold line ended empty c.head? ++ empty ++ text, last, behind, next)
    else (line, ended, empty, c)

/-- A scalar in a block whose header is ahead; `least` is the least column of its lines. -/
def block (fold : Bool) (least : Nat) (c : Cursor) : Reading (List Char × Cursor) := do
  let (chomping, depth, c) ← blockHeader c
  let (empty, column, c) :=
    match depth with
    | some depth =>
      let column := least + depth - 1
      let (empty, c) := emptyBlockLines column c.rest c
      (empty, column, c)
    | none =>
      let (empty, column, c) := leadingLines c.rest c
      (empty, max least column, c)
  let (text, last, behind, c) :=
    if c.column = column && c.head?.isSome then
      let (text, last, behind, c) := blockLines fold column c.rest c
      (empty ++ text, last, behind, c)
    else ([], [], empty, c)
  let ending := match chomping with
    | .strip => []
    | .clip => last
    | .keep => last ++ behind
  return (text ++ ending, c)

end Stencil.Data.Yaml
