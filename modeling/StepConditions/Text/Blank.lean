/-!
# Blank text

White space is the Unicode property `White_Space`, twenty-five characters. Trimming drops it at
both ends; a text is blank when nothing else is in it. A zero-width space and a byte order mark
are not white space.
-/
namespace StepConditions.Text

/-- The characters with the property `White_Space`, as closed ranges of code points. -/
def spaceRanges : List (Nat × Nat) :=
  [(0x09, 0x0D), (0x20, 0x20), (0x85, 0x85), (0xA0, 0xA0), (0x1680, 0x1680), (0x2000, 0x200A),
   (0x2028, 0x2029), (0x202F, 0x202F), (0x205F, 0x205F), (0x3000, 0x3000)]

def isSpace (c : Char) : Bool :=
  spaceRanges.any fun r => r.1 ≤ c.toNat && c.toNat ≤ r.2

def trimChars (cs : List Char) : List Char :=
  ((cs.dropWhile isSpace).reverse.dropWhile isSpace).reverse

def trim (s : String) : String :=
  String.ofList (trimChars s.toList)

/-- Nothing but white space is in the text; the empty text is blank too. -/
def isBlank (s : String) : Bool :=
  s.toList.all isSpace

/-- Lowers the twenty-six ASCII capitals and no other character. -/
def lowerAscii (s : String) : String :=
  String.ofList (s.toList.map Char.toLower)

end StepConditions.Text
