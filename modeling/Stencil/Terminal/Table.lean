-- Tables for a terminal, drawn with boxes: a title in the middle, a head between heavy lines, and
-- one line for each row.

namespace Stencil.Terminal

structure Table where
  title : String
  head : List String
  rows : List (List String)

namespace Table

/-- The width of each column. -/
def widths (t : Table) : List Nat :=
  t.rows.foldl (fun widths row => List.zipWith max widths (row.map String.length))
    (t.head.map String.length)

def repeated (n : Nat) (c : Char) : String := String.ofList (List.replicate n c)

/-- A line across the table. -/
def rule (widths : List Nat) (left line between right : Char) : String :=
  let parts := widths.map fun w => repeated (w + 2) line
  s!"{left}" ++ (String.singleton between).intercalate parts ++ s!"{right}\n"

/-- A line of cells. -/
def row (widths : List Nat) (bar : Char) (cells : List String) : String :=
  let parts := List.zipWith (fun w cell => " " ++ cell ++ repeated (w - cell.length) ' ' ++ " ")
    widths cells
  s!"{bar}" ++ (String.singleton bar).intercalate parts ++ s!"{bar}\n"

/-- A text in the middle of a line. -/
def centred (width : Nat) (s : String) : String :=
  let left := (width - s.length) / 2
  repeated left ' ' ++ s ++ repeated (width - s.length - left) ' ' ++ "\n"

def text (t : Table) : String :=
  let widths := t.widths
  let width := widths.foldl (fun n w => n + w + 3) 1
  centred width t.title ++ rule widths '┏' '━' '┳' '┓' ++ row widths '┃' t.head ++
    rule widths '┡' '━' '╇' '┩' ++ String.join (t.rows.map (row widths '│')) ++
    rule widths '└' '─' '┴' '┘'

end Table

end Stencil.Terminal
