import StepConditions.Numeric.Digits
import StepConditions.Yaml.Token.Gap

/-!
# Quoted scalars

Between single quotes a quote is written twice; between double quotes a backslash begins an
escape, and one at the end of a line joins it to the next. Both styles fold their lines.
-/
namespace StepConditions.Yaml.Quoted

def escapes : List (Char × Char) :=
  [('0', '\x00'), ('a', '\x07'), ('b', '\x08'), ('t', '\t'), ('\t', '\t'), ('n', '\n'),
   ('v', '\x0B'), ('f', '\x0C'), ('r', '\r'), ('e', '\x1B'), (' ', ' '), ('"', '"'), ('/', '/'),
   ('\\', '\\'), ('N', '\u0085'), ('_', '\u00A0'), ('L', '\u2028'), ('P', '\u2029')]

/-- The count of hexadecimal digits after a letter that begins a code point. -/
def codeLength? : Char → Option Nat
  | 'x' => some 2
  | 'u' => some 4
  | 'U' => some 8
  | _ => none

/-- The character of an escape and the length of the escape after its backslash. -/
def escape? : List Char → Option (Char × Nat)
  | [] => none
  | e :: cs =>
    match codeLength? e with
    | some n =>
      let ds := cs.take n
      if ds.length < n then none
      else (Numeric.readBase? 16 ds).bind fun v =>
        if (0xD800 ≤ v && v ≤ 0xDFFF) || 0x10FFFF < v then none else some (Char.ofNat v, n + 1)
    | none => (escapes.lookup e).map (·, 1)

/-- Reads characters up to a gap or the closing quote, in reverse before `acc`; the result tells
whether the run ended with a joined line. -/
def runFrom? (single : Bool) :
    Nat → List Char → Cursor → Option (List Char × Bool × Cursor)
  | 0, _, _ => none
  | fuel + 1, acc, c =>
    if isGap c.head then some (acc, false, c)
    else if single then
      if c.head == '\'' then
        if c.peek 1 == '\'' then runFrom? single fuel ('\'' :: acc) (c.advance 2)
        else some (acc, false, c)
      else runFrom? single fuel (c.head :: acc) (c.advance 1)
    else if c.head == '"' then some (acc, false, c)
    else if c.head == '\\' then
      if isBreak (c.peek 1) then some (acc, true, (c.advance 1).skipBreak)
      else match escape? c.rest.tail with
        | none => none
        | some (ch, n) => runFrom? single fuel (ch :: acc) (c.advance (n + 1))
    else runFrom? single fuel (c.head :: acc) (c.advance 1)

/-- Reads runs and the gaps between them up to the closing quote; `acc` is in reverse. -/
def readFrom? (single : Bool) : Nat → List Char → Cursor → Option (List Char × Cursor)
  | 0, _, _ => none
  | fuel + 1, acc, c =>
    if c.atDocumentMark || c.head == endMark then none
    else match runFrom? single (c.left + 1) acc c with
      | none => none
      | some (acc, joined, c) =>
        if c.head == (if single then '\'' else '"') then some (acc.reverse, c.advance 1)
        else match Gap.read? 0 (if joined then .joined else .empty) c with
          | none => none
          | some (gap, c) => readFrom? single fuel (gap.text.reverse ++ acc) c

def read? (single : Bool) (c : Cursor) : Option (List Char × Cursor) :=
  readFrom? single (c.left + 1) [] (c.advance 1)

end StepConditions.Yaml.Quoted
