import StepConditions.Condition.Basic
import StepConditions.Text.Quoted

/-!
# Conditions in documents

A condition is an object with the members `stepRef`, `fieldRef`, `operator` and `value`, or an
array of at most four elements in this order. Every part may be missing; names are strings or null,
and members of other names are ignored.
-/
namespace StepConditions

inductive DecodeError where
  /-- An element that is neither an object nor an array. -/
  | notCondition (found : Json)
  /-- A name that is neither a string nor null. -/
  | notName (found : Json)
  /-- An array with more than the four parts. -/
  | tooLong (length : Nat)

namespace DecodeError

def describe : Json → String
  | .null => "null"
  | .bool b => "boolean `" ++ Value.boolText b ++ "`"
  | .number (.whole i) => "integer `" ++ String.ofList (Numeric.intDigits i.val) ++ "`"
  | .number (.float x) => "floating point `" ++ String.ofList x.val.text ++ "`"
  | .string s => "string " ++ Text.quoted s
  | .array _ => "sequence"
  | .object _ => "map"

def message : DecodeError → String
  | notCondition found => "invalid type: " ++ describe found ++ ", expected struct Condition"
  | notName found => "invalid type: " ++ describe found ++ ", expected a string"
  | tooLong length =>
    "invalid length " ++ toString length ++ ", expected fewer elements in array"

end DecodeError

namespace Condition

def empty : Condition :=
  ⟨none, none, none, .null⟩

def decodeName : Json → Except DecodeError (Option String)
  | .null => .ok none
  | .string s => .ok (some s)
  | j => .error (.notName j)

def decodeMember (c : Condition) (key : String) (j : Json) : Except DecodeError Condition :=
  match key with
  | "stepRef" => (decodeName j).map fun s => { c with step := s }
  | "fieldRef" => (decodeName j).map fun s => { c with field := s }
  | "operator" => (decodeName j).map fun s => { c with operator := s }
  | "value" => .ok { c with expected := .ofJson j }
  | _ => .ok c

/-- Takes members in turn, so that the first bad one is reported. -/
def decodeMembers (c : Condition) : List (String × Json) → Except DecodeError Condition
  | [] => .ok c
  | (key, j) :: rest =>
    match decodeMember c key j with
    | .ok c => decodeMembers c rest
    | .error e => .error e

/-- The keys of the parts of a condition in the order of the array form. -/
def keys : List String :=
  ["stepRef", "fieldRef", "operator", "value"]

def decode : Json → Except DecodeError Condition
  | .object members => decodeMembers empty members
  | .array items =>
    match decodeMembers empty (keys.zip items) with
    | .ok c => if keys.length < items.length then .error (.tooLong items.length) else .ok c
    | .error e => .error e
  | j => .error (.notCondition j)

def decodeAt (index : Nat) (j : Json) : Except Error Condition :=
  match decode j with
  | .error e => .error (.malformedCondition index e.message)
  | .ok c => (c.names index).map fun _ => c

def decodeFrom (index : Nat) : List Json → Except Error (List Condition)
  | [] => .ok []
  | j :: js =>
    match decodeAt index j with
    | .error e => .error e
    | .ok c => (decodeFrom (index + 1) js).map (c :: ·)

/-- Decodes a condition list; null is the empty one. -/
def decodeList : Json → Except Error (List Condition)
  | .array items => decodeFrom 0 items
  | .null => .ok []
  | _ => .error (.invalidArgument "condition list must be an array")

end Condition

end StepConditions
