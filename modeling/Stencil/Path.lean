-- Paths of files: their parts, their plain form, and the endings of file names.

namespace Stencil.Path

/-- The parts of a path; empty ones and single points lead nowhere. -/
def parts (path : String) : List String :=
  ((path.toList.splitOn '/').map String.ofList).filter fun part => part ≠ "" && part ≠ "."

/-- The path without detours. -/
def normal (path : String) : String :=
  let base := if path.toList.head? = some '/' then "/" else ""
  match parts path with
  | [] => if base = "" then "." else base
  | parts => base ++ "/".intercalate parts

/-- The last part of a path. -/
def fileName (path : String) : String := (parts path).getLastD ""

/-- The path around a path. -/
def parent (path : String) : String :=
  let base := if path.toList.head? = some '/' then "/" else ""
  normal (base ++ "/".intercalate (parts path).dropLast)

/-- The ending of a file name with its point; a name that only begins or ends with a point has
none. -/
def suffix (path : String) : String :=
  let name := (fileName path).toList
  let ending := (name.reverse.takeWhile (· ≠ '.')).reverse
  if ending.isEmpty || name.length ≤ ending.length + 1 then "" else String.ofList ('.' :: ending)

end Stencil.Path
