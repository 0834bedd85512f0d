import BlockOrder.CommandLine.Run

/-!
# The command

Reads the files that the command line names and carries out what comes of it.
-/

namespace BlockOrder.CommandLine

/-- The text of a file, if it can be read. -/
def readText? (path : String) : IO (Option Text) := do
  match ← (IO.FS.readFile path).toBaseIO with
  | .ok s => return some s.toList
  | .error _ => return none

def namedPaths (arguments : List String) : List String :=
  match parseArguments arguments with
  | .ok a => a.file :: a.config.toList
  | .error _ => []

/-- Carries out what a command line asks for. -/
def execute (arguments : List String) : IO UInt32 := do
  let files ← (namedPaths arguments).mapM fun path => return (path, ← readText? path)
  let outcome := run (fun path => (files.lookup path).join) arguments
  if let some complaint := outcome.complaint then IO.eprintln complaint
  if let some (path, t) := outcome.written then IO.FS.writeFile path (String.ofList t)
  IO.print (String.ofList outcome.output)
  return UInt32.ofNat outcome.exitCode

end BlockOrder.CommandLine

def main (arguments : List String) : IO UInt32 := BlockOrder.CommandLine.execute arguments
