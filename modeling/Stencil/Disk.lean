-- Disks: what the command line needs of a file system. One that only lives in memory serves
-- where nothing is to be kept.
import Stencil.Path

namespace Stencil

/-- What a path leads to. -/
inductive Target where
  | absent
  | directory
  | file (text : String)

structure Disk (m : Type → Type) where
  /-- What a path leads to. -/
  look (path : String) : m Target
  /-- Writes a file, and tells whether that was possible. -/
  write (path text : String) : m Bool

namespace Disk

/-- Files by their paths. -/
abbrev Memory := List (String × String)

namespace Memory

/-- What a path leads to; each file makes the directories around it. -/
def look (files : Memory) (path : String) : Target :=
  let target := Path.parts path
  match files.find? fun (name, _) => Path.parts name = target with
  | some (_, text) => if path = "" then .absent else .file text
  | none =>
    if path ≠ "" && (target.isEmpty ||
        files.any fun (name, _) => target.isPrefixOf (Path.parts name)) then .directory
    else .absent

/-- The files with one more, or with a new text for one. -/
def put (files : Memory) (path text : String) : Memory :=
  files.filter (fun (name, _) => Path.parts name ≠ Path.parts path) ++ [(path, text)]

end Memory

/-- A disk that lives in memory. -/
def inMemory : Disk (StateM Memory) where
  look path := return (← get).look path
  write path text := do
    match (← get).look path, (← get).look (Path.parent path) with
    | .directory, _ | _, .absent | _, .file _ => return false
    | _, .directory =>
      modify fun files => files.put path text
      return true

end Disk

end Stencil
