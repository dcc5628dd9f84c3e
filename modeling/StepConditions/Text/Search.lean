/-!
# Order and search of texts

Texts are ordered by code point, which is also the order of their UTF-8 bytes. The search asks
whether one text occurs somewhere inside another.
-/
namespace StepConditions.Text

/-- Order by the first code point that differs; a proper beginning of a text comes before it. -/
def order (a b : String) : Ordering :=
  compare a b

/-- Whether `needle` occurs as a block of consecutive characters. -/
def occursIn (needle : List Char) : List Char → Bool
  | [] => needle.isEmpty
  | c :: cs => needle.isPrefixOf (c :: cs) || occursIn needle cs

def contains (text needle : String) : Bool :=
  occursIn needle.toList text.toList

end StepConditions.Text
