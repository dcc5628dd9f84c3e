import StepConditions.Json.Path
import StepConditions.Json.Printer
import StepConditions.Json.Reader

/-!
# Operands

A value is one leaf of a document as a condition sees it. Arrays, objects and integers above the
signed range are never compared by structure: they are carried as their compact text.
-/
namespace StepConditions

inductive Value where
  | null
  | text (s : String)
  | bool (b : Bool)
  /-- An integer of 32 bits. -/
  | int (i : Int32)
  /-- An integer of 64 bits; one that would fit 32 is still of this kind. -/
  | long (i : Int64)
  | float (x : Numeric.Binary64)
  /-- The compact text of a node. -/
  | raw (s : String)
  deriving DecidableEq

namespace Value

/-- An integer of the signed 64-bit range, as narrow as it fits. -/
def ofInt (i : Int) : Value :=
  if -0x80000000 ≤ i ∧ i < 0x80000000 then int (Int32.ofInt i) else long (Int64.ofInt i)

def ofNumber : Json.Number → Value
  | .whole i =>
    if i.val < 0x8000000000000000 then ofInt i.val
    else raw (String.ofList (Numeric.intDigits i.val))
  | .float x => float x.val

def ofJson : Json → Value
  | .null => null
  | .string s => text s
  | .bool b => bool b
  | .number n => ofNumber n
  | j => raw j.print

def parse? (s : String) : Option Value :=
  (Json.parse? s).map ofJson

def atPath? (root : Option Json) (path : String) : Option Value :=
  (root.bind (·.at? path)).map ofJson

def isNull : Value → Bool
  | null => true
  | _ => false

def int? : Value → Option Int
  | int i => some i.toInt
  | long i => some i.toInt
  | _ => none

def float? : Value → Option Numeric.Binary64
  | int i => some (.ofInt i.toInt)
  | long i => some (.ofInt i.toInt)
  | float x => some x
  | _ => none

def isNumeric : Value → Bool
  | int _ | long _ | float _ => true
  | _ => false

def kind : Value → String
  | null => "null"
  | text _ => "text"
  | bool _ => "bool"
  | int _ => "int"
  | long _ => "long"
  | float _ => "float"
  | raw _ => "opaque"

def boolText : Bool → String
  | true => "true"
  | false => "false"

/-- The text that a value is searched in and, between different kinds, ordered by. -/
def asText : Value → String
  | null => ""
  | text s => s
  | bool b => boolText b
  | int i => String.ofList (Numeric.intDigits i.toInt)
  | long i => String.ofList (Numeric.intDigits i.toInt)
  | float x => String.ofList x.text
  | raw s => s

/-- The text for a reader, where null has a word. -/
def display : Value → String
  | null => "null"
  | v => v.asText

/-- The integer as a node; every 64-bit integer is a number of a document. -/
def intNode (i : Int) : Json :=
  ((Json.Number.ofInt? i).map Json.number).getD .null

/-- The node that a value stands for. A carried text that is no document is a string, and a double
that is no finite number is null. -/
def toJson : Value → Json
  | null => .null
  | text s => .string s
  | bool b => .bool b
  | int i => intNode i.toInt
  | long i => intNode i.toInt
  | float x => ((Json.Number.ofBinary64? x).map Json.number).getD .null
  | raw s => (Json.parse? s).getD (.string s)

end Value

end StepConditions
