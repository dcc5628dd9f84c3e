import StepConditions.Numeric.Shortest

/-!
# Numbers in a document

A number is an integer between `-2 ^ 63` and `2 ^ 64`, or a finite double. Literals with a point
or an exponent, and integers outside the range, become doubles by a short approximate rule that
is not correctly rounded: digits are collected while they fit 64 bits, and the power of ten is
applied by multiplying or dividing once per `308` decimal places.
-/
namespace StepConditions.Json

open Numeric

/-- An integer in the range of signed or unsigned 64-bit words. -/
structure Whole where
  val : Int
  low : -0x8000000000000000 ≤ val
  high : val < 0x10000000000000000
  deriving DecidableEq

structure Finite where
  val : Binary64
  finite : val.isFinite = true
  deriving DecidableEq

inductive Number where
  | whole (i : Whole)
  | float (x : Finite)
  deriving DecidableEq

def Number.ofInt? (i : Int) : Option Number :=
  if h : -0x8000000000000000 ≤ i ∧ i < 0x10000000000000000 then some (.whole ⟨i, h.1, h.2⟩)
  else none

def Number.ofBinary64? (x : Binary64) : Option Number :=
  if h : x.isFinite = true then some (.float ⟨x, h⟩) else none

/-- Integers in decimal, doubles in their shortest form. -/
def Number.text : Number → List Char
  | .whole i => intDigits i.val
  | .float x => x.val.text

/-- The largest significand that is collected. -/
def significandLimit : Nat := 0xFFFFFFFFFFFFFFFF

def powTen (k : Nat) : Binary64 :=
  Binary64.ofNat (Nat.pow 10 k)

/-- Digits before the point: the significand that fits, and the count of digits after it. From the
first digit that does not fit on, all are only counted. -/
def collectWhole (n : Nat) : List Char → Nat × Nat
  | [] => (n, 0)
  | c :: cs =>
    let n' := 10 * n + digitValue c
    if n' ≤ significandLimit then collectWhole n' cs else (n, (c :: cs).length)

/-- Digits after the point: the significand that fits, and the count of digits taken into it. From
the first digit that does not fit on, all are dropped. -/
def collectFraction (n : Nat) (taken : Nat) : List Char → Nat × Nat
  | [] => (n, taken)
  | c :: cs =>
    let n' := 10 * n + digitValue c
    if n' ≤ significandLimit then collectFraction n' (taken + 1) cs else (n, taken)

/-- Applies a power of ten to a double; none if the result is too large. Powers beyond `308` are
applied in steps, upward not at all unless the double is zero. -/
def scaleTen? (x : Binary64) (e : Int) : Nat → Option Binary64
  | 0 => some x
  | fuel + 1 =>
    if e.natAbs ≤ 308 then
      if 0 ≤ e then
        let y := x.mul (powTen e.natAbs)
        if y.isFinite then some y else none
      else some (x.div (powTen e.natAbs))
    else if x.isZero then some x
    else if 0 ≤ e then none
    else scaleTen? (x.div (powTen 308)) (e + 308) fuel

/-- `n * 10 ^ e` by repeated scaling. Dividing three times by `10 ^ 308` leaves zero of any
significand, so that four rounds are enough. -/
def approximate? (n : Nat) (e : Int) : Option Binary64 :=
  scaleTen? (Binary64.ofNat n) e 4

def exponentLimit : Nat := 0x7FFFFFFF

/-- The value of a literal with an exponent part: a positive exponent over the limit is too large
unless the significand is zero, and a negative one leaves zero. -/
def scaleBy? (n : Nat) (e : Int) (down : Bool) (power : Nat) : Option Binary64 :=
  if exponentLimit < power then
    if n == 0 || down then some Binary64.zero else none
  else
    let e := if down then e - power else e + power
    approximate? n (max (-0x80000000) (min 0x7FFFFFFF e))

/-- A literal taken apart: sign, digits before and after the point, and the exponent part as the
sign and digits that follow its letter. -/
structure Literal where
  negative : Bool
  whole : List Char
  fraction : Option (List Char)
  exponent : Option (Bool × List Char)

def Literal.collected (l : Literal) : Nat × Int :=
  let (n, dropped) := collectWhole 0 l.whole
  let (n, taken) := collectFraction n 0 (l.fraction.getD [])
  (n, (dropped : Int) - taken)

def Literal.float? (l : Literal) : Option Binary64 :=
  let (n, e) := l.collected
  let x? := match l.exponent with
    | none => approximate? n e
    | some (down, ds) => scaleBy? n e down (digitsValue 0 ds)
  x?.map fun x => if l.negative then x.neg else x

/-- The integer that a literal without point and exponent stands for. Minus zero is not one. -/
def Literal.whole? (l : Literal) : Option Number :=
  if l.fraction.isSome || l.exponent.isSome then none
  else
    let n := digitsValue 0 l.whole
    if l.negative && n == 0 then none
    else Number.ofInt? (signed l.negative n)

def Literal.number? (l : Literal) : Option Number :=
  match l.whole? with
  | some i => some i
  | none => l.float?.bind Number.ofBinary64?

/-- Splits off the exponent part, if there is one; none if it has no digit. -/
def readPower? : List Char → Option (Option (Bool × List Char) × List Char)
  | [] => some (none, [])
  | c :: cs =>
    if c == 'e' || c == 'E' then
      let (down, cs) := spanSign cs
      let (ds, cs) := spanDigits cs
      if ds.isEmpty then none else some (some (down, ds), cs)
    else some (none, c :: cs)

def readFraction? : List Char → Option (Option (List Char) × List Char)
  | '.' :: cs =>
    let (ds, cs) := spanDigits cs
    if ds.isEmpty then none else some (some ds, cs)
  | cs => some (none, cs)

/-- Splits off a literal: no plus sign, and no zero before other digits. -/
def readLiteral? (cs : List Char) : Option (Literal × List Char) := do
  let (negative, cs) := match cs with
    | '-' :: cs => (true, cs)
    | cs => (false, cs)
  let (whole, cs) := spanDigits cs
  guard (!whole.isEmpty && (whole.head? != some '0' || whole.length == 1))
  let (fraction, cs) ← readFraction? cs
  let (exponent, cs) ← readPower? cs
  some (⟨negative, whole, fraction, exponent⟩, cs)

def readNumber? (cs : List Char) : Option (Number × List Char) := do
  let (l, cs) ← readLiteral? cs
  let n ← l.number?
  some (n, cs)

end StepConditions.Json
