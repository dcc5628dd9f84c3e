import StepConditions.Error
import StepConditions.Text.Blank

/-!
# Actors

The actor is who performs the current step. Its id comes from an environment variable; where that
fails, the step is performed by the system.
-/
namespace StepConditions

structure Actor where
  id : String
  deriving DecidableEq

namespace Actor

/-- The environment variable that holds the id unless another is named. -/
def defaultVariable : String := "STEPGATE_ACTOR"

def system : Actor := ⟨"system"⟩

def isSystem (a : Actor) : Bool :=
  a == system

def ofVariable (variableName : String) : Option String → Except Error Actor
  | some id =>
    if Text.isBlank id then .error (.configuration (variableName ++ " is blank"))
    else .ok ⟨Text.trim id⟩
  | none => .error (.configuration (variableName ++ ": environment variable not found"))

def orSystem : Except Error Actor → Actor
  | .ok a => a
  | .error _ => system

end Actor

end StepConditions
