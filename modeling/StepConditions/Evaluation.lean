import StepConditions.Coercion
import StepConditions.Condition.Decode
import StepConditions.Operator

/-!
# Evaluation

A list of conditions holds when every one of them does. Conditions are taken in order, each looks
its field up at most once, and the first that is malformed, has no value or does not hold ends the
evaluation. Besides the result an evaluation records the lookups that it made.
-/
namespace StepConditions

/-- A source of current values: the text of a field of a step, no value, or a failure. -/
abbrev Resolver := (step field : String) → Except String (Option String)

abbrev Lookup := String × String

structure Outcome where
  passed : Bool
  lookups : List Lookup
  deriving DecidableEq

namespace Outcome

def vacuous : Outcome := ⟨true, []⟩

def refused : Outcome := ⟨false, []⟩

/-- Goes on to the next outcome only if the first one passed. -/
def andThen (a b : Outcome) : Outcome :=
  if a.passed then ⟨b.passed, a.lookups ++ b.lookups⟩ else a

/-- The outcomes in turn up to the first that does not pass. -/
def all (f : α → Outcome) : List α → Outcome
  | [] => vacuous
  | x :: xs => (f x).andThen (all f xs)

end Outcome

/-- An ordering against a number needs a number: a text that does not read as one is never ordered
by its characters instead. -/
def unorderable (mode : Coercion) (operator : String) (current expected : Value) : Bool :=
  mode == .matchExpected && expected.isNumeric && !current.isNumeric &&
    (Operator.find? operator).any Operator.isOrdering

namespace Condition

def satisfied (mode : Coercion) (operator : String) (expected : Value) (resolved : String) : Bool :=
  let current := mode.apply resolved expected
  !unorderable mode operator current expected && Operator.evaluate current (some operator) expected

def check (mode : Coercion) (resolve : Resolver) (c : Condition) : Outcome :=
  match c.names 0 with
  | .error _ => .refused
  | .ok n =>
    match resolve n.step n.field with
    | .ok (some resolved) =>
      ⟨satisfied mode n.operator c.expected resolved, [(n.step, n.field)]⟩
    | _ => ⟨false, [(n.step, n.field)]⟩

def checkNode (mode : Coercion) (resolve : Resolver) (j : Json) : Outcome :=
  match decode j with
  | .ok c => check mode resolve c
  | .error _ => .refused

end Condition

/-- Evaluates a conjunction: no conditions hold, and conditions without a resolver fail. -/
def evaluateWith (f : Resolver → α → Outcome) (resolver : Option Resolver) : List α → Outcome
  | [] => .vacuous
  | xs =>
    match resolver with
    | none => .refused
    | some resolve => Outcome.all (f resolve) xs

def evaluateAll (mode : Coercion) (conditions : Option (List Condition))
    (resolver : Option Resolver) : Outcome :=
  evaluateWith (Condition.check mode) resolver (conditions.getD [])

/-- The elements of a condition list document; any other document holds none. -/
def conditionNodes : Option Json → List Json
  | some (.array items) => items
  | _ => []

/-- Evaluates a condition list document. Elements are decoded as they are reached. -/
def evaluateDocument (mode : Coercion) (document : Option Json)
    (resolver : Option Resolver) : Outcome :=
  evaluateWith (Condition.checkNode mode) resolver (conditionNodes document)

end StepConditions
