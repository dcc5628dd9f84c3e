import StepConditions.Yaml.Cursor

/-!
# Gaps in flow scalars

Between the words of a plain or quoted scalar, blanks within a line are kept and a line break is
folded: one alone becomes a space, further ones are kept, and blanks around them are dropped.
-/
namespace StepConditions.Yaml

/-- What was found between two words. Once a line was broken, `first` is its break and `more` are
the breaks after it. -/
structure Gap where
  blanks : List Char
  broken : Bool
  first : List Char
  more : List Char

namespace Gap

def empty : Gap := ⟨[], false, [], []⟩

/-- A gap in which a line break has been passed over that leaves nothing. -/
def joined : Gap := ⟨[], true, [], []⟩

def fold (first more : List Char) : List Char :=
  if first == ['\n'] then (if more.isEmpty then [' '] else more) else first ++ more

def text (g : Gap) : List Char :=
  if g.broken then fold g.first g.more else g.blanks

/-- Reads blanks and breaks. A tab left of the column `tabStop` of a later line is refused. -/
def readFrom? (tabStop : Int) : Nat → Gap → Cursor → Option (Gap × Cursor)
  | 0, g, c => some (g, c)
  | fuel + 1, g, c =>
    if isBlank c.head then
      if g.broken && c.head == '\t' && (c.column : Int) < tabStop then none
      else
        let g := if g.broken then g else { g with blanks := g.blanks ++ [c.head] }
        readFrom? tabStop fuel g (c.advance 1)
    else if isBreak c.head then
      let (b, c) := c.readBreak
      let g := if g.broken then { g with more := g.more ++ b } else ⟨[], true, b, []⟩
      readFrom? tabStop fuel g c
    else some (g, c)

def read? (tabStop : Int) (g : Gap) (c : Cursor) : Option (Gap × Cursor) :=
  readFrom? tabStop (c.left + 1) g c

end Gap

end StepConditions.Yaml
