import Pressroom.TypeScript.Command

/-!
The command that writes the TypeScript interfaces of the records to a file or prints them.
-/
open Pressroom

/-- Writes a file after making the folders above it, and says whether it could. -/
def writeInterfaces (path content : String) : IO Bool := do
  try
    let folder := "/".intercalate (path.splitOn "/").dropLast
    if folder != "" then IO.FS.createDirAll folder
    IO.FS.writeFile path content
    return true
  catch _ => return false

def main (args : List String) : IO UInt32 := do
  match TypeScript.readOrder args with
  | .error _ =>
    IO.eprintln "usage: generate_types.py [-h] [--output OUTPUT] [--stdout]"
    return 2
  | .ok .help =>
    IO.print TypeScript.helpText
    return 0
  | .ok .print =>
    IO.print TypeScript.wholeModule
    return 0
  | .ok (.write path) =>
    if ← writeInterfaces path TypeScript.wholeModule then return 0
    IO.eprintln s!"Failed to write {path}"
    return 1
