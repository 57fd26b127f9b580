/-
# The program

Hands the words, the environment and the files of the working directory to the command line, and
prints what comes of it.  Nothing is decided here.  The run of a server is told as one that is
interrupted as soon as it listens.
-/
import Switchboard.CommandLine

namespace Switchboard.Main

open Settings

/-- The variables of this process. -/
def environment : IO Environment := do
  match ← (IO.FS.readBinFile "/proc/self/environ").toBaseIO with
  | .ok block => return .ofBlock block.toList
  | .error _ => return []

/-- Those of the paths at which there is a file, with its text. -/
def filesAt (paths : List String) : IO Files :=
  paths.filterMapM fun (path : String) => do
    match ← (IO.FS.readFile path).toBaseIO with
    | .ok text => return some (path, text)
    | .error _ => return none

/-- The files of the working directory that matter under an environment. -/
def files (env : Environment) : IO Files := do
  let found ← filesAt [CommandLine.variableFile]
  let names := fileNames ((CommandLine.environment? env found).getD env)
  return found ++ (← filesAt (names.flatMap Files.candidates))

/-- Prints what the program has to say. -/
def report (exit : CommandLine.Exit) : IO Unit := do
  exit.log.forM fun event => IO.println event.line
  IO.print exit.stdout
  IO.eprint exit.stderr

/-- Runs the program. -/
def run (words : List String) : IO UInt32 := do
  let env ← environment
  let exit := CommandLine.run words env (← files env) []
  report exit
  return UInt32.ofNat exit.code

end Switchboard.Main

/-- Runs the program on the words behind its name. -/
def main (words : List String) : IO UInt32 := Switchboard.Main.run words
