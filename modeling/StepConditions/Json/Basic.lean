import StepConditions.Json.Number

/-!
# Documents

A document is a JSON value. Objects keep their members in order; setting a member that exists
keeps its place, and a new one goes to the end.
-/
namespace StepConditions

inductive Json where
  | null
  | bool (b : Bool)
  | number (n : Json.Number)
  | string (s : String)
  | array (items : List Json)
  | object (members : List (String × Json))

namespace Json

def getMember? (key : String) : List (String × α) → Option α
  | [] => none
  | (k, v) :: rest => if k = key then some v else getMember? key rest

/-- Records a value under a key, in the place of an earlier one or at the end. -/
def setMember (key : String) (value : α) : List (String × α) → List (String × α)
  | [] => [(key, value)]
  | (k, v) :: rest => if k = key then (k, value) :: rest else (k, v) :: setMember key value rest

def setMembers (members : List (String × α)) (new : List (String × α)) : List (String × α) :=
  new.foldl (fun ms m => setMember m.1 m.2 ms) members

def get? (key : String) : Json → Option Json
  | object members => getMember? key members
  | _ => none

def isObject : Json → Bool
  | object _ => true
  | _ => false

def text? : Json → Option String
  | string s => some s
  | _ => none

end Json

end StepConditions
