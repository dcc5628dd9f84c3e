import StepConditions.Json.Basic
import StepConditions.Json.Reader
import StepConditions.Text.Blank

/-!
# Dot paths

A path names a node by the keys on the way to it, with dots between them. Only objects are
entered. A blank path names nothing; a null at the end of a path is found.
-/
namespace StepConditions.Json

/-- The parts between the dots, one more than there are dots. -/
def splitDots : List Char → List (List Char)
  | [] => [[]]
  | c :: cs =>
    if c = '.' then [] :: splitDots cs
    else match splitDots cs with
      | [] => [[c]]
      | part :: parts => (c :: part) :: parts

def segments (path : String) : List String :=
  (splitDots path.toList).map String.ofList

def follow? : List String → Json → Option Json
  | [], j => some j
  | k :: ks, j => (j.get? k).bind (follow? ks)

def at? (j : Json) (path : String) : Option Json :=
  if Text.isBlank path then none else follow? (segments path) j

/-- The node at a path in a text; a text that is no document has no nodes. -/
def atText? (text path : String) : Option Json :=
  (parse? text).bind (·.at? path)

end StepConditions.Json
