import StepConditions.Error
import StepConditions.Text.Blank
import StepConditions.Value

/-!
# Conditions

A condition compares the current value of a field of a step with an expected value. It may come
from a document with names missing or blank; such a condition is malformed and never holds.
-/
namespace StepConditions

structure Condition where
  step : Option String
  field : Option String
  operator : Option String
  expected : Value
  deriving DecidableEq

namespace Condition

/-- The names of a condition that has all three of them, none blank. -/
structure Names where
  step : String
  field : String
  operator : String
  deriving DecidableEq

/-- A name that is present and not blank; `key` is what it is called in a document. -/
def required (index : Nat) (key : String) : Option String → Except Error String
  | none => .error (.malformedCondition index (key ++ " is missing"))
  | some s =>
    if Text.isBlank s then .error (.malformedCondition index (key ++ " is blank")) else .ok s

def names (c : Condition) (index : Nat) : Except Error Names := do
  let step ← required index "stepRef" c.step
  let field ← required index "fieldRef" c.field
  let operator ← required index "operator" c.operator
  .ok ⟨step, field, operator⟩

def nameNode : Option String → Json
  | some s => .string s
  | none => .null

def toJson (c : Condition) : Json :=
  .object [("stepRef", nameNode c.step), ("fieldRef", nameNode c.field),
    ("operator", nameNode c.operator), ("value", c.expected.toJson)]

end Condition

end StepConditions
