/-!
# Command-line arguments

A command has options with a value, by a long name and sometimes a letter, and positional texts.
Values follow in the next argument or are attached; one that begins with a dash has to be
attached. Arguments are taken in order, so that the first mistake or request for help counts, and
what is missing is only noticed at the end.
-/
namespace StepConditions.CommandLine

structure OptionSpec where
  letter : Option Char
  long : String
  required : Bool

structure CommandSpec where
  name : String
  options : List OptionSpec
  texts : Nat

def evalSpec : CommandSpec :=
  ⟨"eval", [⟨some 'c', "conditions", true⟩, ⟨some 'd', "data", true⟩, ⟨none, "coercion", false⟩], 0⟩

def commandSpecs : List CommandSpec :=
  [evalSpec,
   ⟨"path", [⟨some 'd', "document", true⟩, ⟨some 'p', "path", true⟩], 0⟩,
   ⟨"redirect", [⟨some 'd', "document", true⟩], 0⟩,
   ⟨"escape", [], 1⟩, ⟨"compress", [], 1⟩, ⟨"decompress", [], 1⟩, ⟨"whoami", [], 0⟩]

def helpName : String := "help"

inductive Command where
  | eval (conditions data : String) (coercion : Option String)
  | path (document path : String)
  | redirect (document : String)
  | escape (text : String)
  | compress (text : String)
  | decompress (text : String)
  | whoami
  deriving DecidableEq

inductive Request where
  | run (command : Command)
  /-- Help about a command, or about all. -/
  | help (topic : Option String)
  | version
  /-- Arguments that no command takes. -/
  | misuse
  deriving DecidableEq

/-- Values of options by their long names, and positional texts. -/
structure Given where
  options : List (String × String)
  texts : List String

inductive Stop where
  | help
  | misuse

namespace CommandSpec

/-- Sets an option, which can be done once. -/
def set (g : Given) (o : OptionSpec) (value : String) : Except Stop Given :=
  if (g.options.lookup o.long).isSome then .error .misuse
  else .ok { g with options := g.options ++ [(o.long, value)] }

def addText (spec : CommandSpec) (g : Given) (text : String) : Except Stop Given :=
  if g.texts.length < spec.texts then .ok { g with texts := g.texts ++ [text] }
  else .error .misuse

/-- An argument that can be the value of the option before it. -/
def isValue (arg : String) : Bool :=
  match arg.toList with
  | '-' :: _ :: _ => false
  | _ => true

/-- What an argument that begins with a dash is: an option, its value attached or not. -/
inductive Dashed where
  | option (o : OptionSpec) (value : Option String)
  | help
  | unknown

def dashedLong (spec : CommandSpec) (cs : List Char) : Dashed :=
  let name := String.ofList (cs.takeWhile (· != '='))
  let value := match cs.dropWhile (· != '=') with
    | _ :: v => some (String.ofList v)
    | [] => none
  if name == "help" then (if value.isSome then .unknown else .help)
  else match spec.options.find? (·.long == name) with
    | some o => .option o value
    | none => .unknown

/-- Takes apart a letter and a value right behind it or after an equals sign. -/
def dashedLetter (spec : CommandSpec) (c : Char) (cs : List Char) : Dashed :=
  if c == 'h' then .help
  else match spec.options.find? (·.letter == some c) with
    | some o =>
      .option o (match cs with
        | [] => none
        | '=' :: v => some (String.ofList v)
        | v => some (String.ofList v))
    | none => .unknown

def dashed? (spec : CommandSpec) (arg : String) : Option Dashed :=
  match arg.toList with
  | '-' :: '-' :: cs => some (spec.dashedLong cs)
  | '-' :: c :: cs => some (spec.dashedLetter c cs)
  | _ => none

/-- Takes arguments in turn. After two dashes all are positional. -/
def readFrom (spec : CommandSpec) (g : Given) : List String → Except Stop Given
  | [] => .ok g
  | arg :: args =>
    if arg == "--" then args.foldlM spec.addText g
    else match spec.dashed? arg with
      | none => do spec.readFrom (← spec.addText g arg) args
      | some .help => .error .help
      | some .unknown => .error .misuse
      | some (.option o (some v)) => do spec.readFrom (← set g o v) args
      | some (.option o none) =>
        match args with
        | [] => .error .misuse
        | v :: args => if isValue v then do spec.readFrom (← set g o v) args else .error .misuse

/-- Takes all arguments of a command; what is required has to be there. -/
def read (spec : CommandSpec) (args : List String) : Except Stop Given := do
  let g ← spec.readFrom ⟨[], []⟩ args
  let missing := spec.options.any fun o => o.required && (g.options.lookup o.long).isNone
  if missing || g.texts.length < spec.texts then .error .misuse else .ok g

end CommandSpec

namespace Command

def ofGiven? (name : String) (g : Given) : Option Command :=
  match name, g.texts with
  | "eval", [] => do
    let c ← g.options.lookup "conditions"
    let d ← g.options.lookup "data"
    some (.eval c d (g.options.lookup "coercion"))
  | "path", [] => do
    let d ← g.options.lookup "document"
    let p ← g.options.lookup "path"
    some (.path d p)
  | "redirect", [] => (g.options.lookup "document").map .redirect
  | "escape", [t] => some (.escape t)
  | "compress", [t] => some (.compress t)
  | "decompress", [t] => some (.decompress t)
  | "whoami", [] => some .whoami
  | _, _ => none

def documents : Command → List String
  | .eval conditions data _ => [conditions, data]
  | .path document _ => [document]
  | .redirect document => [document]
  | _ => []

end Command

namespace Request

def ofCommand (spec : CommandSpec) (args : List String) : Request :=
  match spec.read args with
  | .error .help => .help (some spec.name)
  | .error .misuse => .misuse
  | .ok g => ((Command.ofGiven? spec.name g).map .run).getD .misuse

/-- What the arguments behind the command for help ask for: at most one topic. -/
def ofHelp (args : List String) : Request :=
  match args with
  | [] => .help none
  | [topic] =>
    if topic == helpName || commandSpecs.any (·.name == topic) then .help (some topic) else .misuse
  | _ => .misuse

/-- What arguments ask for: a command, or help or the version before one. -/
def ofArgs : List String → Request
  | [] => .misuse
  | arg :: args =>
    match arg.toList with
    | '-' :: 'h' :: _ => .help none
    | '-' :: 'V' :: _ => .version
    | _ =>
      if arg == "--help" then .help none
      else if arg == "--version" then .version
      else if arg == helpName then ofHelp args
      else match commandSpecs.find? (·.name == arg) with
        | some spec => ofCommand spec args
        | none => .misuse

end Request

end StepConditions.CommandLine
