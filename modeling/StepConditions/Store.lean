import StepConditions.Evaluation
import StepConditions.Json.Path

/-!
# Step store

The recorded data of steps, one document for each step name. Fields keep the order in which they
were first recorded.
-/
namespace StepConditions

structure Store where
  steps : List (String × Json)

namespace Store

def empty : Store := ⟨[]⟩

def data? (s : Store) (step : String) : Option Json :=
  Json.getMember? step s.steps

/-- Replaces everything recorded for a step. -/
def setStep (s : Store) (step : String) (data : Json) : Store :=
  ⟨Json.setMember step data s.steps⟩

/-- The members of a document, none if it is no object. -/
def fieldsOf : Option Json → List (String × Json)
  | some (.object fields) => fields
  | _ => []

/-- Records one field. Data of the step that is no object is given up for it. -/
def update (s : Store) (step field : String) (value : Json) : Store :=
  s.setStep step (.object (Json.setMember field value (fieldsOf (s.data? step))))

/-- Records all fields of an object. Data of the step that is no object is an error. -/
def merge (s : Store) (step : String) (value : Json) : Except Error Store :=
  match value with
  | .object new =>
    match s.data? step with
    | none => .ok (s.setStep step (.object (Json.setMembers [] new)))
    | some (.object fields) => .ok (s.setStep step (.object (Json.setMembers fields new)))
    | some _ => .error (.invalidArgument ("data for step '" ++ step ++ "' is not an object"))
  | _ => .error (.invalidArgument ("merge into step '" ++ step ++ "' requires an object"))

/-- Records steps in turn, up to the first whose data is no object. -/
def addSteps (s : Store) : List (String × Json) → Except Error Store
  | [] => .ok s
  | (step, data) :: rest =>
    if data.isObject then addSteps (s.setStep step data) rest
    else .error (.invalidArgument ("data for step '" ++ step ++ "' must be an object"))

/-- The store of a document that maps steps to objects of their fields. -/
def ofJson : Json → Except Error Store
  | .object steps => empty.addSteps steps
  | _ => .error (.invalidArgument "step data must be an object keyed by step")

def toJson (s : Store) : Json :=
  .object s.steps

def get? (s : Store) (step field : String) : Option Json :=
  (s.data? step).bind (·.get? field)

def getPath? (s : Store) (step path : String) : Option Json :=
  (s.data? step).bind (·.at? path)

/-- The current value that a node stands for: null has none, a string is its own text. -/
def currentText : Json → Option String
  | .null => none
  | .string t => some t
  | j => some j.print

def resolve (s : Store) (step field : String) : Option String :=
  (s.getPath? step field).bind currentText

def resolver (s : Store) : Resolver :=
  fun step field => .ok (s.resolve step field)

/-- The step names in code point order. -/
def stepNames (s : Store) : List String :=
  (s.steps.map Prod.fst).mergeSort fun a b => (compare a b).isLE

def sortedSteps (s : Store) : List (String × Json) :=
  s.steps.mergeSort fun a b => (compare a.1 b.1).isLE

end Store

end StepConditions
