/-!
# Rounding to the binary64 grid

A magnitude is the pattern of a binary64 number without its sign bit, so magnitudes are ordered as
the numbers they stand for. A positive quotient of naturals is rounded to the nearest magnitude, a
tie to the even one; from the halfway point above the largest finite number on the result is the
infinite magnitude.
-/
namespace StepConditions.Numeric

/-- The nearest natural number to `n / d`; of two equally near ones, the even one. -/
def roundHalfEven (n d : Nat) : Nat :=
  let q := n / d
  let twice := 2 * (n % d)
  if d < twice || (twice == d && q % 2 == 1) then q + 1 else q

/-- `2 ^ e ≤ n / d`, without leaving the naturals. -/
def powTwoLe (e : Int) (n d : Nat) : Bool :=
  if 0 ≤ e then d <<< e.toNat ≤ n else d ≤ n <<< (-e).toNat

/-- The largest `e` with `2 ^ e ≤ n / d`, for positive `n` and `d`. -/
def ratioLog2 (n d : Nat) : Int :=
  let e := (n.log2 : Int) - d.log2
  if powTwoLe e n d then e else e - 1

/-- The pattern of infinity; larger patterns are not numbers. -/
def infiniteMagnitude : Nat := 0x7FF0000000000000

/-- The count of magnitudes from one power of two up to the next. -/
def binade : Nat := 0x10000000000000

/-- The magnitude nearest to `n / d`. The last place has weight `2 ^ s`; adding the rounded
significand to the exponent field lets a carry out of it move to the next binade. -/
def roundRatio (n d : Nat) : Nat :=
  if n = 0 then 0 else
    let s := max (ratioLog2 n d - 52) (-1074)
    let q := if 0 ≤ s then roundHalfEven n (d <<< s.toNat) else roundHalfEven (n <<< (-s).toNat) d
    min ((s + 1074).toNat * binade + q) infiniteMagnitude

/-- The significand of a finite magnitude, hidden bit included. -/
def significand (m : Nat) : Nat :=
  if m < binade then m else binade + m % binade

/-- The weight of the last place of a finite magnitude is two to this power. -/
def placeExponent (m : Nat) : Int :=
  (max (m / binade) 1 : Nat) - 1075

def magnitudeRatio (m : Nat) : Nat × Nat :=
  let e := placeExponent m
  if 0 ≤ e then (significand m <<< e.toNat, 1) else (significand m, 1 <<< (-e).toNat)

theorem roundRatio_le (n d : Nat) : roundRatio n d ≤ infiniteMagnitude := by
  unfold roundRatio
  split
  · exact Nat.zero_le _
  · exact Nat.min_le_right ..

end StepConditions.Numeric
