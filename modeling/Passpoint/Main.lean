import Passpoint.Command.Run

/-!
The program: runs a command line in the folder where it was started. Files are read before the
run, for every argument that could name one.
-/

namespace Passpoint.Program

/-- The texts of an argument that could be paths: all of it, and what follows an equals sign. -/
def pathsOf (arg : String) : List String :=
  match Text.splitFirst '=' arg.toList with
  | none => [arg]
  | some (_, value) => [arg, String.ofList value]

/-- The system's code for reading a folder as a file. -/
def folderCode : UInt32 := 21

/-- What stands at a path; nothing if it cannot be read. -/
def readItem (path : String) : IO (Option Item) := do
  try
    return some (.file (← IO.FS.readBinFile path).toList)
  catch
    | .inappropriateType _ code _ => return if code = folderCode then some .folder else none
    | _ => return none

/-- Everything that a command line can refer to. -/
def readFolder (args : List String) : IO Folder := do
  let mut folder : Folder := {}
  for path in args.flatMap pathsOf do
    if let some item ← readItem path then folder := folder.put path item
  return folder

end Passpoint.Program

open Passpoint in
/-- Runs the arguments. A refused command line ends with two, and a fault with one. -/
def main (args : List String) : IO UInt32 := do
  match Command.run (← Program.readFolder args) args with
  | .usage =>
    IO.eprintln Command.globalHelp
    return 2
  | .done code output errors =>
    IO.print output
    IO.eprint errors
    return UInt32.ofNat code
  | .crashed c =>
    IO.eprintln c.message
    return 1
