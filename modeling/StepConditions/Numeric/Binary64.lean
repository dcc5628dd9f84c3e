import StepConditions.Numeric.Rounding

/-!
# Binary64 numbers

A double is a sign and a magnitude below `2 ^ 63`. Magnitudes past infinity are the texts "not a
number"; their payload is kept, since the total order and the bit pattern show it.
-/
namespace StepConditions.Numeric

structure Binary64 where
  negative : Bool
  magnitude : Nat
  magnitude_lt : magnitude < 0x8000000000000000
  deriving DecidableEq

namespace Binary64

theorem ext {x y : Binary64} (hs : x.negative = y.negative) (hm : x.magnitude = y.magnitude) :
    x = y := by
  cases x; cases y; simp_all

/-- The double of a 64-bit pattern, the sign in its highest bit. -/
def ofBits (bits : UInt64) : Binary64 :=
  ⟨decide (0x8000000000000000 ≤ bits.toNat), bits.toNat % 0x8000000000000000,
    Nat.mod_lt _ (by decide)⟩

def toBits (x : Binary64) : UInt64 :=
  UInt64.ofNat (x.magnitude + if x.negative then 0x8000000000000000 else 0)

def isNaN (x : Binary64) : Bool :=
  infiniteMagnitude < x.magnitude

def isFinite (x : Binary64) : Bool :=
  x.magnitude < infiniteMagnitude

def isZero (x : Binary64) : Bool :=
  x.magnitude == 0

/-- The double of the sign and the magnitude nearest to `n / d`. -/
def ofRatio (negative : Bool) (n d : Nat) : Binary64 :=
  ⟨negative, roundRatio n d, Nat.lt_of_le_of_lt (roundRatio_le n d) (by decide)⟩

def ofNat (n : Nat) : Binary64 :=
  ofRatio false n 1

def ofInt (i : Int) : Binary64 :=
  ofRatio (decide (i < 0)) i.natAbs 1

def zero : Binary64 :=
  ⟨false, 0, by decide⟩

def neg (x : Binary64) : Binary64 :=
  ⟨!x.negative, x.magnitude, x.magnitude_lt⟩

def mul (x y : Binary64) : Binary64 :=
  let a := magnitudeRatio x.magnitude
  let b := magnitudeRatio y.magnitude
  ofRatio (x.negative != y.negative) (a.1 * b.1) (a.2 * b.2)

/-- The rounded quotient of two finite doubles, the divisor not zero. -/
def div (x y : Binary64) : Binary64 :=
  let a := magnitudeRatio x.magnitude
  let b := magnitudeRatio y.magnitude
  ofRatio (x.negative != y.negative) (a.1 * b.2) (a.2 * b.1)

/-- Orders numbers as their values, with one zero. -/
def key (x : Binary64) : Int :=
  if x.negative then -x.magnitude else x.magnitude

/-- Orders all patterns: negative before positive, and outward what is not a number. -/
def totalKey (x : Binary64) : Int :=
  if x.negative then -x.magnitude - 1 else x.magnitude

/-- The numeric order; nothing is related to what is not a number. -/
def order? (x y : Binary64) : Option Ordering :=
  if x.isNaN || y.isNaN then none else some (compare x.key y.key)

/-- The numeric order where it decides, else the total order of the patterns. -/
def order (x y : Binary64) : Ordering :=
  (x.order? y).getD (compare x.totalKey y.totalKey)

/-- Equality of values: the zeros are equal, and nothing equals what is not a number. -/
def sameValue (x y : Binary64) : Bool :=
  x.order? y == some .eq

end Binary64

end StepConditions.Numeric
