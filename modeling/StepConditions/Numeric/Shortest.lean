import StepConditions.Numeric.Decimal

/-!
# Shortest decimal text of a double

A finite double is written with the fewest decimal digits that read back as the same double, and
among those with the digits nearest to its value. Numbers whose leading digit has a weight from
`10 ^ -5` up to below `10 ^ 16` are written positionally with at least one digit after the point,
all others with an exponent that shows its sign.
-/
namespace StepConditions.Numeric

def powTenLe (e : Int) (n d : Nat) : Bool :=
  if 0 ≤ e then d * Nat.pow 10 e.toNat ≤ n else d ≤ n * Nat.pow 10 (-e).toNat

/-- The largest `e` with `10 ^ e ≤ n / d`, for positive `n` and `d`. -/
def ratioLog10 (n d : Nat) : Int :=
  if d ≤ n then (digitCount (n / d) : Int) - 1
  else
    let k := (digitCount (d / n) : Int)
    if powTenLe (1 - k) n d then 1 - k else -k

/-- The grid neighbours of `n / d` among the multiples of `10 ^ e`: the quotient rounded down, and
the remainder and divisor of that division. -/
def gridBelow (n d : Nat) (e : Int) : Nat × Nat × Nat :=
  let (n, d) := if 0 ≤ e then (n, d * Nat.pow 10 e.toNat) else (n * Nat.pow 10 (-e).toNat, d)
  (n / d, n % d, d)

/-- The nearest of the two grid neighbours that read back as `m`, an exact tie to the even one. -/
def gridDigits? (m n d : Nat) (e : Int) : Option Nat :=
  let (q, r, w) := gridBelow n d e
  let low := decimalMagnitude q e == m
  let high := r != 0 && decimalMagnitude (q + 1) e == m
  let up := w < 2 * r || (2 * r == w && q % 2 == 1)
  if low && high then some (if up then q + 1 else q)
  else if low then some q
  else if high then some (q + 1)
  else none

/-- Searches grids of one more digit each, `fuel` of them, ending in the exact expansion. -/
def shortestFrom (m n d : Nat) (e : Int) : Nat → Nat × Int
  | 0 =>
    let x := placeExponent m
    if 0 ≤ x then (significand m <<< x.toNat, 0) else (significand m * Nat.pow 5 (-x).toNat, x)
  | fuel + 1 =>
    match gridDigits? m n d e with
    | some q => (q, e)
    | none => shortestFrom m n d (e - 1) fuel

/-- The shortest `(q, e)` with `q * 10 ^ e` reading back as the finite positive magnitude `m`. -/
def shortestDecimal (m : Nat) : Nat × Int :=
  let (n, d) := magnitudeRatio m
  shortestFrom m n d (ratioLog10 n d) 17

/-- Zeros at the end of the digits move into the power of ten. -/
def trimZeros (ds : List Char) : List Char :=
  (ds.reverse.dropWhile (· == '0')).reverse

/-- The exponent of the leading digit from which a number is written with an exponent. -/
def positionalFrom : Int := -5

def positionalBelow : Int := 16

/-- Lays out significant digits, the leading one of weight `10 ^ x`. -/
def layoutDigits (ds : List Char) (x : Int) : List Char :=
  if positionalFrom ≤ x ∧ x < positionalBelow then
    if x < 0 then '0' :: '.' :: List.replicate (-x - 1).toNat '0' ++ ds
    else
      let whole := x.toNat + 1
      let fraction := ds.drop whole
      ds.take whole ++ List.replicate (whole - ds.length) '0' ++
        '.' :: if fraction.isEmpty then ['0'] else fraction
  else
    let mantissa := match ds with
      | [] => []
      | [d] => [d]
      | d :: rest => d :: '.' :: rest
    mantissa ++ 'e' :: (if x < 0 then '-' else '+') :: digits x.natAbs

def magnitudeText (m : Nat) : List Char :=
  if m = 0 then ['0', '.', '0']
  else
    let (q, e) := shortestDecimal m
    let ds := digits q
    layoutDigits (trimZeros ds) (e + ds.length - 1)

/-- The text of a double: its shortest decimal form, or `NaN`, `inf`, `-inf`. -/
def Binary64.text (x : Binary64) : List Char :=
  if x.isNaN then ['N', 'a', 'N']
  else
    let body := if x.isFinite then magnitudeText x.magnitude else ['i', 'n', 'f']
    if x.negative then '-' :: body else body

end StepConditions.Numeric
