import DocTree.Cli.Run

/-!
# The program

Reads files from the file system, and prints what a run gives.
-/

open DocTree

/-- The system's code of the error that a directory was read as a file. -/
def isDirectoryCode : UInt32 := 21

/-- What stands under a path of the file system. -/
def readPath (path : String) : IO Cli.Found := do
  try
    return .bytes (← IO.FS.readBinFile path)
  catch e =>
    match e with
    | .inappropriateType _ code _ =>
        return if code == isDirectoryCode then .directory else .beyondFile
    | _ => return .missing

/-- Run the program. -/
def main (args : List String) : IO UInt32 := do
  let ended ← Cli.run readPath args
  IO.print ended.stdout
  IO.eprint ended.stderr
  return ended.status.toUInt32
