/-!
# Character entities

The five characters with a meaning in markup are written as entities, and nothing else changes.
-/
namespace StepConditions.Text

/-- The entity of a significant character, any other character itself. -/
def entity : Char → List Char
  | '&' => "&amp;".toList
  | '<' => "&lt;".toList
  | '>' => "&gt;".toList
  | '"' => "&quot;".toList
  | '\'' => "&#39;".toList
  | c => [c]

def escapeChars (cs : List Char) : List Char :=
  cs.flatMap entity

def escapeEntities (s : String) : String :=
  String.ofList (escapeChars s.toList)

end StepConditions.Text
