import StepConditions.Json.Basic

/-!
# Redirection documents

A redirection names itself and the step to go on with, either in an object under `parameters` or
at the top of the document. Each of the two is looked up on its own, under `parameters` first, and
only strings count.
-/
namespace StepConditions.Redirection

def unknownName : String := "Unknown"

/-- The string under a key, inside `parameters` or else at the top. -/
def field? (doc : Option Json) (key : String) : Option String :=
  doc.bind fun d =>
    match ((d.get? "parameters").bind (·.get? key)).bind Json.text? with
    | some s => some s
    | none => (d.get? key).bind Json.text?

def name (doc : Option Json) : String :=
  (field? doc "name").getD unknownName

def targetStep? (doc : Option Json) : Option String :=
  field? doc "targetStep"

def hasParameters (doc : Option Json) : Bool :=
  ((doc.bind (·.get? "parameters")).map Json.isObject).getD false

end StepConditions.Redirection
