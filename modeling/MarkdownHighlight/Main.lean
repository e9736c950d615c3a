import MarkdownHighlight.CommandLine.Run

/-!
The command line program: reads the files that its arguments name, hands them
to `CommandLine.run` and prints the outcome.
-/

namespace MarkdownHighlight.CommandLine

/-- The contents of those files that can be read. -/
def readFiles (paths : List Text) : IO (List (Text × ByteArray)) :=
  paths.filterMapM fun path => do
    match ← (IO.FS.readBinFile (String.ofList path)).toBaseIO with
    | .ok bytes => return some (path, bytes)
    | .error _ => return none

def pathsFor (home? : Option Text) (arguments : List Text) : List Text :=
  match parse arguments with
  | .ok (.run a) => filesRead home? a
  | _ => []

end MarkdownHighlight.CommandLine

open MarkdownHighlight in
def main (arguments : List String) : IO UInt32 := do
  let arguments := arguments.map String.toList
  let home? := (← IO.getEnv "HOME").map String.toList
  let files ← CommandLine.readFiles (CommandLine.pathsFor home? arguments)
  let outcome := CommandLine.run ⟨home?, fun path => files.lookup path⟩ arguments
  IO.print (String.ofList outcome.stdout)
  IO.eprint (String.ofList outcome.stderr)
  return outcome.code.toUInt32
