import StepConditions.Order
import StepConditions.Text.LowerCase

/-!
# Operators

Seven operators, each with a word; six have a symbol too. Letters of a token may be of either
case.
-/
namespace StepConditions

inductive Operator where
  | equal
  | notEqual
  | contains
  | greater
  | less
  | greaterOrEqual
  | lessOrEqual
  deriving DecidableEq

namespace Operator

/-- Every accepted token in lower case. -/
def tokens : List (String × Operator) :=
  [("equals", equal), ("==", equal), ("notequals", notEqual), ("!=", notEqual),
   ("contains", contains), ("greaterthan", greater), (">", greater), ("lessthan", less),
   ("<", less), ("greaterorequal", greaterOrEqual), (">=", greaterOrEqual),
   ("lessorequal", lessOrEqual), ("<=", lessOrEqual)]

def find? (token : String) : Option Operator :=
  Json.getMember? (Text.lower token) tokens

def parse (token : String) : Except Error Operator :=
  match find? token with
  | some op => .ok op
  | none => .error (.unknownOperator token)

def name : Operator → String
  | equal => "equals"
  | notEqual => "notequals"
  | contains => "contains"
  | greater => "greaterthan"
  | less => "lessthan"
  | greaterOrEqual => "greaterorequal"
  | lessOrEqual => "lessorequal"

def isOrdering : Operator → Bool
  | greater | less | greaterOrEqual | lessOrEqual => true
  | _ => false

/-- A test of the order, false where there is none. -/
def ordered (test : Ordering → Bool) (a b : Value) : Bool :=
  match a.order b with
  | .ok o => test o
  | .error _ => false

def holds : Operator → Value → Value → Bool
  | equal, a, b => a.equal b
  | notEqual, a, b => !a.equal b
  | contains, a, b => !a.isNull && Text.contains a.asText b.asText
  | greater, a, b => ordered (·.isGT) a b
  | less, a, b => ordered (·.isLT) a b
  | greaterOrEqual, a, b => ordered (·.isGE) a b
  | lessOrEqual, a, b => ordered (·.isLE) a b

/-- Evaluates the operator of a token; a missing or unknown one holds of nothing. -/
def evaluate (current : Value) (token : Option String) (expected : Value) : Bool :=
  match token.bind find? with
  | some op => op.holds current expected
  | none => false

end Operator

end StepConditions
