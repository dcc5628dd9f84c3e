import StepConditions.Numeric.Binary64
import StepConditions.Numeric.Digits

/-!
# Decimal numbers read as doubles

A decimal number is a natural number of digits times a power of ten. It is rounded once, exactly;
powers far outside the range of doubles are settled by the count of digits alone.
-/
namespace StepConditions.Numeric

/-- The count of decimal digits, at least one. -/
def digitCount (n : Nat) : Nat :=
  (digits n).length

def decimalMagnitude (n : Nat) (e : Int) : Nat :=
  if n = 0 then 0
  else
    let lead := digitCount n + e
    if 310 < lead then infiniteMagnitude
    else if lead < -400 then 0
    else if 0 ≤ e then roundRatio (n * Nat.pow 10 e.toNat) 1
    else roundRatio n (Nat.pow 10 (-e).toNat)

theorem decimalMagnitude_le (n : Nat) (e : Int) : decimalMagnitude n e ≤ infiniteMagnitude := by
  unfold decimalMagnitude
  dsimp only
  repeat' split
  all_goals first | exact Nat.zero_le _ | exact Nat.le_refl _ | exact roundRatio_le ..

/-- The double nearest to `n * 10 ^ e`, with a sign. -/
def Binary64.ofDecimal (negative : Bool) (n : Nat) (e : Int) : Binary64 :=
  ⟨negative, decimalMagnitude n e, Nat.lt_of_le_of_lt (decimalMagnitude_le n e) (by decide)⟩

/-- An exponent part, present or not: `e` or `E`, an optional sign and at least one digit. -/
def readExponent? : List Char → Option Int
  | [] => some 0
  | c :: cs => if c == 'e' || c == 'E' then readInt? cs else none

/-- Reads an optional sign, digits with at most one point among them and at least one digit in
all, and an optional exponent: the sign, the digits as one number, and the power of ten. -/
def readDecimal? (cs : List Char) : Option (Bool × Nat × Int) :=
  let (negative, cs) := spanSign cs
  let (whole, cs) := spanDigits cs
  let (fraction, cs) := match cs with
    | '.' :: cs => spanDigits cs
    | cs => ([], cs)
  if whole.isEmpty && fraction.isEmpty then none
  else (readExponent? cs).map fun e =>
    (negative, digitsValue 0 (whole ++ fraction), e - fraction.length)

def readFinite? (cs : List Char) : Option Binary64 :=
  match readDecimal? cs with
  | some (negative, n, e) =>
    let x := Binary64.ofDecimal negative n e
    if x.isFinite then some x else none
  | none => none

end StepConditions.Numeric
