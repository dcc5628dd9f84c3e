import StepConditions.Error
import StepConditions.Text.Blank
import StepConditions.Value

/-!
# Coercion

Current values arrive as text. They are compared as text, or read again as the kind of the value
that a condition expects; a text that does not read as that kind stays text.
-/
namespace StepConditions

inductive Coercion where
  | text
  | matchExpected
  deriving DecidableEq

namespace Coercion

/-- The coercion of a mode name, blanks around it and the case of its letters aside. -/
def parse (mode : String) : Except Error Coercion :=
  let m := Text.lowerAscii (Text.trim mode)
  if m = "text" then .ok text
  else if m = "match-expected" ∨ m = "match_expected" then .ok matchExpected
  else .error (.configuration ("unknown coercion mode: " ++ m))

def name : Coercion → String
  | text => "text"
  | matchExpected => "match-expected"

def readBool? (s : String) : Option Bool :=
  let w := Text.lowerAscii (Text.trim s)
  if w = "true" then some true else if w = "false" then some false else none

def readLong? (s : String) : Option Int :=
  (Numeric.readInt? (Text.trimChars s.toList)).filter fun i =>
    -0x8000000000000000 ≤ i && i < 0x8000000000000000

/-- The text as a number: an integer as narrow as it fits, else the nearest finite double. -/
def readNumber? (s : String) : Option Value :=
  match readLong? s with
  | some i => some (.ofInt i)
  | none => (Numeric.readFinite? (Text.trimChars s.toList)).map .float

/-- The current value that a resolved text stands for beside an expected value. -/
def apply (mode : Coercion) (resolved : String) (expected : Value) : Value :=
  match mode, expected with
  | matchExpected, .bool _ => ((readBool? resolved).map .bool).getD (.text resolved)
  | matchExpected, .int _ | matchExpected, .long _ | matchExpected, .float _ =>
    (readNumber? resolved).getD (.text resolved)
  | _, _ => .text resolved

end Coercion

end StepConditions
