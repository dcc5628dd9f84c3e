import StepConditions.CommandLine.Run

/-!
# The program

Reads the files that a command names and the variables of the environment, runs the command, and
prints what it says.
-/
namespace StepConditions.CommandLine

open Document

/-- What is found under a file name; what cannot be read is missing. -/
def readFile (name : String) : IO File := do
  match ← (IO.FS.readBinFile name).toBaseIO with
  | .ok content => return .bytes content.toList
  | .error _ => return .missing

def readSurroundings (args : List String) : IO Surroundings := do
  let files ← (fileNames args).mapM fun name => return (name, ← readFile name)
  let content := variableBytes ((files.lookup Variables.fileName).getD .missing)
  let values ← (variableNames content).filterMapM fun name =>
    return (← IO.getEnv name).map fun value => (name, value)
  return .ofLists files values

end StepConditions.CommandLine

def main (args : List String) : IO UInt32 := do
  let surroundings ← StepConditions.CommandLine.readSurroundings args
  let result := surroundings.runArgs args
  IO.print result.output
  IO.eprint result.complaint
  return UInt32.ofNat result.code
