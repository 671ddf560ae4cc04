import MeshOperator.CommandLine.Outcome
import MeshOperator.Yaml.Writer

/-!
The program: arguments, environment and one file in, text and an exit code out.
-/

namespace MeshOperator

set_option autoImplicit false

namespace CommandLine

def readEnvironment : IO (List (String × String)) :=
  environmentNames.filterMapM fun v => do
    return (← IO.getEnv v.2).map fun value => (v.2, value)

def readText (file : String) : IO (Option String) := do
  try
    return some (← IO.FS.readFile file)
  catch _ => return none

def Invocation.file? : Invocation → Option String
  | .command (.render file _ _) => some file
  | _ => none

/-- The file that the arguments name, with its text if it can be read. -/
def readFile (environment : String → Option String) (arguments : List String) :
    IO (List (String × String)) :=
  match (Invocation.ofArguments? environment arguments).bind Invocation.file? with
  | none => return []
  | some file => return (← readText file).toList.map fun text => (file, text)

def report : Outcome → IO UInt32
  | .documents values => do
    IO.print (Yaml.writeAll values)
    return 0
  | .text text => do
    IO.print text
    return 0
  | .failed context causes => do
    (failureLines context causes).forM fun line => IO.eprintln line
    return 1
  | .misused => do
    IO.eprint (helpText .program)
    return 2

end CommandLine

end MeshOperator

open MeshOperator.CommandLine in
def main (arguments : List String) : IO UInt32 := do
  let environment ← readEnvironment
  let find := fun name => List.lookup name environment
  let files ← readFile find arguments
  report (outcome find (fun file => List.lookup file files) arguments)
