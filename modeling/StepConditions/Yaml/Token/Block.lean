import StepConditions.Numeric.Digits
import StepConditions.Yaml.Cursor

/-!
# Block scalars

A literal scalar keeps its lines; a folded one joins neighbouring lines that begin with no blank.
The indentation is that of the first line with text unless the header gives it. The header also
says whether line breaks at the end are dropped or all kept; otherwise the first is kept.
-/
namespace StepConditions.Yaml.Block

inductive Chomping where
  | strip
  | clip
  | keep
  deriving DecidableEq

def chomping? : Char → Option Chomping
  | '+' => some .keep
  | '-' => some .strip
  | _ => none

/-- A digit from one to nine, none for another character, an error for zero. -/
def indentation? (ch : Char) : Option (Option Nat) :=
  if ch == '0' then none
  else if ch.isDigit then some (some (Numeric.digitValue ch))
  else some none

/-- Reads the header after its indicator: indentation and chomping in either order. -/
def header? (c : Cursor) : Option (Option Nat × Chomping × Cursor) := do
  match chomping? c.head with
  | some k =>
    let c := c.advance 1
    let n ← indentation? c.head
    some (n, k, if n.isSome then c.advance 1 else c)
  | none =>
    let n ← indentation? c.head
    if n.isNone then some (none, .clip, c)
    else
      let c := c.advance 1
      match chomping? c.head with
      | some k => some (n, k, c.advance 1)
      | none => some (n, .clip, c)

/-- Passes over indentation and empty lines. Without a known indentation all spaces are passed
over and the widest column is found. A tab within the indentation is refused. -/
def breaksFrom? (indent : Nat) :
    Nat → Nat → List Char → Cursor → Option (Nat × List Char × Cursor)
  | 0, _, _, _ => none
  | fuel + 1, widest, breaks, c =>
    let inside := (c.rest.takeWhile (· == ' ')).length
    let c := c.advance (if indent = 0 then inside else min inside (indent - c.column))
    let widest := max widest c.column
    if (indent = 0 || c.column < indent) && c.head == '\t' then none
    else if isBreak c.head then
      let (b, c) := c.readBreak
      breaksFrom? indent fuel widest (breaks ++ b) c
    else some (widest, breaks, c)

/-- Passes over empty lines; zero for the indentation asks for it to be found, at least one column
beyond that of the parent. -/
def breaks? (parent : Int) (indent : Nat) (c : Cursor) : Option (Nat × List Char × Cursor) :=
  (breaksFrom? indent (c.left + 1) 0 [] c).map fun (widest, breaks, c) =>
    (if indent = 0 then max (max widest (parent + 1).toNat) 1 else indent, breaks, c)

/-- What a block scalar has read: its text in reverse, whether the last line began with a blank,
the break of that line and the breaks of empty lines after it. -/
structure Lines where
  text : List Char
  blank : Bool
  first : List Char
  more : List Char

/-- The text in reverse up to the beginning of a next line, which begins with a blank or not. -/
def Lines.joined (folded : Bool) (l : Lines) (blank : Bool) : List Char :=
  let sep :=
    if folded && l.first == ['\n'] && !l.blank && !blank then
      if l.more.isEmpty then [' '] else l.more
    else l.first ++ l.more
  sep.reverse ++ l.text

def linesFrom? (folded : Bool) (parent : Int) (indent : Nat) :
    Nat → Lines → Cursor → Option (Lines × Cursor)
  | 0, _, _ => none
  | fuel + 1, l, c =>
    if c.column != indent || c.head == endMark then some (l, c)
    else
      let blank := isBlank c.head
      let (line, c) := c.span fun ch => !isLineEnd ch
      let text := line.reverse ++ l.joined folded blank
      let (first, c) := c.readBreak
      match breaks? parent indent c with
      | none => none
      | some (_, more, c) => linesFrom? folded parent indent fuel ⟨text, blank, first, more⟩ c

def Lines.chomped (l : Lines) : Chomping → List Char
  | .strip => l.text.reverse
  | .clip => l.text.reverse ++ l.first
  | .keep => l.text.reverse ++ l.first ++ l.more

/-- Reads a scalar that begins with its indicator at the cursor, below a collection with the
indentation `parent`. -/
def read? (folded : Bool) (parent : Int) (c : Cursor) : Option (List Char × Cursor) := do
  let (given, chomping, c) ← header? (c.advance 1)
  let c := (c.skipWhile isBlank).skipComment
  guard (isLineEnd c.head)
  let c := c.skipBreak
  let indent := match given with
    | some n => (max parent 0).toNat + n
    | none => 0
  let (indent, breaks, c) ← breaks? parent indent c
  let (l, c) ← linesFrom? folded parent indent (c.left + 1) ⟨[], false, [], breaks⟩ c
  some (l.chomped chomping, c)

end StepConditions.Yaml.Block
