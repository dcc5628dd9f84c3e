/-!
# Places in a YAML text

The character classes of YAML and a cursor that counts characters, lines and columns. Looking past
the end of a text finds NUL, which no text may contain.
-/
namespace StepConditions.Yaml

/-- What is found past the end. -/
def endMark : Char := '\x00'

def isAllowed (c : Char) : Bool :=
  let n := c.toNat
  n == 0x09 || n == 0x0A || n == 0x0D || (0x20 ≤ n && n ≤ 0x7E) || n == 0x85 ||
    (0xA0 ≤ n && n ≤ 0xFFFD) || 0x10000 ≤ n

def isBlank (c : Char) : Bool :=
  c == ' ' || c == '\t'

def isBreak (c : Char) : Bool :=
  c == '\n' || c == '\r' || c == '\u0085' || c == '\u2028' || c == '\u2029'

def isLineEnd (c : Char) : Bool :=
  isBreak c || c == endMark

def isGap (c : Char) : Bool :=
  isBlank c || isLineEnd c

/-- Letters, digits, underscore and minus of ASCII, the characters of names. -/
def isNameChar (c : Char) : Bool :=
  c.isAlphanum || c == '_' || c == '-'

/-- Brackets, braces and the comma, which have a meaning inside flow collections. -/
def isFlowIndicator (c : Char) : Bool :=
  c == ',' || c == '[' || c == ']' || c == '\x7b' || c == '\x7d'

/-- The rest of a text and its length, and how much of the text, of its lines and of its last line
is behind. -/
structure Cursor where
  rest : List Char
  left : Nat
  index : Nat
  line : Nat
  column : Nat

namespace Cursor

def ofChars (cs : List Char) : Cursor :=
  ⟨cs, cs.length, 0, 0, 0⟩

def peek (c : Cursor) (n : Nat) : Char :=
  c.rest.getD n endMark

def head (c : Cursor) : Char :=
  c.peek 0

/-- Passes over characters of one line. -/
def advance (c : Cursor) (n : Nat) : Cursor :=
  ⟨c.rest.drop n, c.left - n, c.index + n, c.line, c.column + n⟩

/-- The longest run of characters with a property, none of them a line break. -/
def span (p : Char → Bool) (c : Cursor) : List Char × Cursor :=
  let cs := c.rest.takeWhile p
  (cs, c.advance cs.length)

def skipWhile (p : Char → Bool) (c : Cursor) : Cursor :=
  (c.span p).2

/-- The break at the cursor, if there is one. Line and paragraph separators stand for themselves,
all others for a line feed. -/
def readBreak (c : Cursor) : List Char × Cursor :=
  match c.rest with
  | '\r' :: '\n' :: cs => (['\n'], ⟨cs, c.left - 2, c.index + 2, c.line + 1, 0⟩)
  | b :: cs =>
    if b == '\u2028' || b == '\u2029' then ([b], ⟨cs, c.left - 1, c.index + 1, c.line + 1, 0⟩)
    else if isBreak b then (['\n'], ⟨cs, c.left - 1, c.index + 1, c.line + 1, 0⟩)
    else ([], c)
  | [] => ([], c)

def skipBreak (c : Cursor) : Cursor :=
  c.readBreak.2

def skipComment (c : Cursor) : Cursor :=
  if c.head == '#' then c.skipWhile fun ch => !isLineEnd ch else c

/-- Whether one character three times and then a gap stand at the beginning of a line. -/
def atMark (c : Cursor) (m : Char) : Bool :=
  c.column == 0 && c.peek 0 == m && c.peek 1 == m && c.peek 2 == m && isGap (c.peek 3)

def atDocumentMark (c : Cursor) : Bool :=
  c.atMark '-' || c.atMark '.'

end Cursor

end StepConditions.Yaml
