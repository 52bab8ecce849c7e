-- The program: it runs the command line on the files of the system.
import Stencil.Command.Line

open Stencil

/-- The files of the system. -/
def systemDisk : Disk IO where
  look path := do
    try return .file (← IO.FS.readFile path)
    catch
      | .noFileOrDirectory .. => return .absent
      | _ => return .directory
  write path text := do
    try
      IO.FS.writeFile path text
      return true
    catch _ => return false

def main (arguments : List String) : IO UInt32 := do
  let reply ← Command.run systemDisk arguments
  (← IO.getStdout).putStr reply.out
  (← IO.getStderr).putStr reply.err
  return reply.code.toUInt32
