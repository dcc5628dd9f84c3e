import StepConditions.Actor
import StepConditions.CommandLine.Arguments
import StepConditions.CommandLine.Help
import StepConditions.CommandLine.Variables
import StepConditions.Document
import StepConditions.Payload.Pack
import StepConditions.Redirection
import StepConditions.Store
import StepConditions.Text.Entity

/-!
# Running a command

A run is a function of the arguments, the files and the variables. It ends with code 0 if it
succeeds, 1 if conditions do not hold, nothing is found or something fails, and 2 if the arguments
are wrong. Only a success and conditions that do not hold have an output; all else is complaint.
-/
namespace StepConditions.CommandLine

open Document

structure Surroundings where
  file : String → File
  environment : Variables.Environment

structure Result where
  code : Nat
  output : String
  complaint : String
  deriving DecidableEq

namespace Result

def success (line : String) : Result :=
  ⟨0, line ++ "\n", ""⟩

def failure (reason : String) : Result :=
  ⟨1, "", reason ++ "\n"⟩

def misuse : Result :=
  ⟨2, "", Help.text none⟩

def ofExcept : Except Error Result → Result
  | .ok r => r
  | .error e => failure ("Error: " ++ e.message)

end Result

/-- The variable that gives the coercion where no option does. -/
def coercionVariable : String := "STEPGATE_COERCION"

/-- The bytes of the variable file, none if there is no file. -/
def variableBytes : File → List UInt8
  | .bytes content => content
  | _ => []

def variableNames (content : List UInt8) : List String :=
  coercionVariable :: Actor.defaultVariable :: Variables.namesIn content

def fileNames (args : List String) : List String :=
  Variables.fileName :: match Request.ofArgs args with
    | .run command => command.documents
    | _ => []

/-- The coercion of a mode name, of text if there is none. -/
def coercionOf (mode : Option String) : Except Error Coercion :=
  match mode with
  | some m => Coercion.parse m
  | none => .ok .text

namespace Surroundings

/-- The mode name of an option, or else of the variable. -/
def modeName (w : Surroundings) (option : Option String) : Option String :=
  option.orElse fun _ => w.environment coercionVariable

def load (w : Surroundings) (path : String) : Except Error Json :=
  Document.load path (w.file path)

def evaluate (w : Surroundings) (conditions data : String) (option : Option String) :
    Except Error Bool := do
  let mode ← coercionOf (w.modeName option)
  let doc ← w.load conditions
  let store ← Store.ofJson (← w.load data)
  .ok (evaluateDocument mode (some doc) (some store.resolver)).passed

def eval (w : Surroundings) (conditions data : String) (option : Option String) :
    Except Error Result :=
  (w.evaluate conditions data option).map fun passed =>
    ⟨if passed then 0 else 1, Value.boolText passed ++ "\n", ""⟩

def path (w : Surroundings) (document path : String) : Except Error Result := do
  let doc ← w.load document
  .ok (((doc.at? path).map fun j => Result.success j.print).getD
    (.failure ("Path not found: " ++ path)))

def redirect (w : Surroundings) (document : String) : Except Error Result := do
  let doc ← w.load document
  let target := (Redirection.targetStep? (some doc)).getD "-"
  .ok (.success ("name: " ++ Redirection.name (some doc) ++ "\ntargetStep: " ++ target))

def whoami (w : Surroundings) : Result :=
  let actor := Actor.ofVariable Actor.defaultVariable (w.environment Actor.defaultVariable)
  .success (Actor.orSystem actor).id

def run (w : Surroundings) : Command → Result
  | .eval conditions data coercion => .ofExcept (w.eval conditions data coercion)
  | .path document path => .ofExcept (w.path document path)
  | .redirect document => .ofExcept (w.redirect document)
  | .escape text => .success (Text.escapeEntities text)
  | .compress text => .success (Payload.pack text)
  | .decompress text => .ofExcept (((Payload.unpack text).map .success).mapError .payload)
  | .whoami => w.whoami

def withVariableFile (w : Surroundings) : Surroundings :=
  { w with environment := w.environment.withFile (variableBytes (w.file Variables.fileName)) }

def runArgs (w : Surroundings) (args : List String) : Result :=
  match Request.ofArgs args with
  | .run command => w.withVariableFile.run command
  | .help topic => ⟨0, Help.text topic, ""⟩
  | .version => ⟨0, Help.versionText, ""⟩
  | .misuse => .misuse

def ofLists (files : List (String × File)) (values : List (String × String)) : Surroundings where
  file := fun name => (files.lookup name).getD .missing
  environment := fun name => values.lookup name

end Surroundings

end StepConditions.CommandLine
