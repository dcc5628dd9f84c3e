/-!
# Decimal digits

Runs of ASCII digits and the numbers they stand for.
-/
namespace StepConditions.Numeric

def digitValue (c : Char) : Nat :=
  c.toNat - '0'.toNat

/-- The number that the digits stand for, read after the digits of `acc`. -/
def digitsValue (acc : Nat) (cs : List Char) : Nat :=
  cs.foldl (fun n c => 10 * n + digitValue c) acc

def spanDigits (cs : List Char) : List Char × List Char :=
  (cs.takeWhile Char.isDigit, cs.dropWhile Char.isDigit)

/-- The decimal digits of a number, `0` for zero. -/
def digits (n : Nat) : List Char :=
  Nat.toDigits 10 n

def intDigits (i : Int) : List Char :=
  if i < 0 then '-' :: digits i.natAbs else digits i.natAbs

/-- An optional sign, and whether it was a minus. -/
def spanSign : List Char → Bool × List Char
  | '-' :: cs => (true, cs)
  | '+' :: cs => (false, cs)
  | cs => (false, cs)

def signed (negative : Bool) (n : Nat) : Int :=
  if negative then -n else n

/-- Reads an optional sign and at least one digit, and nothing else. -/
def readInt? (cs : List Char) : Option Int :=
  let (negative, ds) := spanSign cs
  if ds.isEmpty || !ds.all Char.isDigit then none else some (signed negative (digitsValue 0 ds))

/-- The value of a digit in a base up to sixteen, either case. -/
def digitOf? (base : Nat) (c : Char) : Option Nat :=
  let v? :=
    if c.isDigit then some (c.toNat - '0'.toNat)
    else if 'a' ≤ c ∧ c ≤ 'f' then some (c.toNat - 'a'.toNat + 10)
    else if 'A' ≤ c ∧ c ≤ 'F' then some (c.toNat - 'A'.toNat + 10)
    else none
  v?.filter (· < base)

def readBase? (base : Nat) (cs : List Char) : Option Nat :=
  if cs.isEmpty then none
  else cs.foldlM (fun n c => (digitOf? base c).map (base * n + ·)) 0

end StepConditions.Numeric
