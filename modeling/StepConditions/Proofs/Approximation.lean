import Mathlib
import StepConditions.Proofs.Binary64
import StepConditions.Proofs.Decimal
import StepConditions.Proofs.Literal

/-!
# Where the approximate reading of literals is exact

A product or quotient of doubles is rounded once. The digits of a short literal and its power of ten
are doubles as they are, so that the one operation between them gives the double nearest to its value.
-/
namespace StepConditions
open Numeric

namespace Numeric
variable {x y : Binary64} {m n : ℕ}

lemma magnitudeRatio_pos (m : ℕ) : 0 < (magnitudeRatio m).2 := by
  simp only [magnitudeRatio]
  split
  · exact Nat.one_pos
  · rw [Nat.shiftLeft_eq]
    positivity

lemma magnitudeRatio_eq (m : ℕ) :
    ((magnitudeRatio m).1 : ℚ) / (magnitudeRatio m).2 = magnitudeValue m := by
  simp only [magnitudeRatio, magnitudeValue]
  split
  next h =>
    obtain ⟨k, hk⟩ := Int.eq_ofNat_of_zero_le h
    simp [hk, Nat.shiftLeft_eq]
  next h =>
    obtain ⟨k, hk⟩ := Int.eq_ofNat_of_zero_le (show 0 ≤ -placeExponent m by omega)
    have hk' : placeExponent m = -k := by omega
    simp [hk', Nat.shiftLeft_eq, div_eq_mul_inv]

namespace Binary64

/-- A product is rounded once. -/
lemma magnitude_mul (x y : Binary64) :
    (x.mul y).magnitude = nearestMagnitude (magnitudeValue x.magnitude * magnitudeValue y.magnitude) := by
  have hd := Nat.mul_pos (magnitudeRatio_pos x.magnitude) (magnitudeRatio_pos y.magnitude)
  change roundRatio _ _ = _
  rw [roundRatio_eq _ hd, ← magnitudeRatio_eq, ← magnitudeRatio_eq]
  push_cast
  rw [div_mul_div_comm]

/-- A quotient is rounded once. -/
lemma magnitude_div (hy : 0 < y.magnitude) (x : Binary64) :
    (x.div y).magnitude = nearestMagnitude (magnitudeValue x.magnitude / magnitudeValue y.magnitude) := by
  have hn : 0 < (magnitudeRatio y.magnitude).1 := by
    simp only [magnitudeRatio]
    split <;> simp [Nat.shiftLeft_eq, significand_pos hy]
  have hd := Nat.mul_pos (magnitudeRatio_pos x.magnitude) hn
  change roundRatio _ _ = _
  rw [roundRatio_eq _ hd, ← magnitudeRatio_eq, ← magnitudeRatio_eq]
  push_cast
  rw [div_div_div_eq]

lemma magnitudeValue_ofNat (hn : n ≤ 2 ^ 53) : magnitudeValue (ofNat n).magnitude = n := by
  have hm : (ofNat n).magnitude = nearestMagnitude n := by
    change roundRatio n 1 = _
    rw [roundRatio_eq _ one_pos, Nat.cast_one, div_one]
  rw [hm, magnitudeValue_natCast hn]

end Binary64

end Numeric

namespace Json
variable {l : Literal} {n k fuel : ℕ} {e : ℤ} {x y : Binary64} {cs : List Char}

/-- Beyond `10 ^ 22` a power of ten has too many digits. -/
lemma magnitudeRatio_powTen : ∀ k < 23, 0 < (powTen k).magnitude ∧
    (magnitudeRatio (powTen k).magnitude).1 = 10 ^ k * (magnitudeRatio (powTen k).magnitude).2 := by
  decide +kernel

lemma magnitudeValue_powTen (hk : k < 23) : magnitudeValue (powTen k).magnitude = 10 ^ k := by
  have hd : ((magnitudeRatio (powTen k).magnitude).2 : ℚ) ≠ 0 := by
    exact_mod_cast (magnitudeRatio_pos _).ne'
  rw [← magnitudeRatio_eq, (magnitudeRatio_powTen k hk).2]
  push_cast
  rw [mul_div_cancel_right₀ _ hd]

lemma magnitude_ofNat_mul_powTen (hn : n ≤ 2 ^ 53) (hk : k < 23) :
    ((Binary64.ofNat n).mul (powTen k)).magnitude = nearestMagnitude (decimalValue n k) := by
  rw [Binary64.magnitude_mul, Binary64.magnitudeValue_ofNat hn, magnitudeValue_powTen hk,
    decimalValue, zpow_natCast]

/-- With both operands exact the one rounding is the one of the value. -/
lemma magnitude_of_approximate? (hn : n ≤ 2 ^ 53) (he : e.natAbs ≤ 22)
    (h : approximate? n e = some y) : y.magnitude = nearestMagnitude (decimalValue n e) := by
  have hsteps : e.natAbs ≤ 308 := by omega
  have hpower := magnitudeValue_powTen (k := e.natAbs) (by omega)
  simp only [approximate?, scaleTen?, hsteps, if_true] at h
  split at h
  next hup =>
    split at h
    · cases h
      rw [magnitude_ofNat_mul_powTen hn (by omega), Int.natAbs_of_nonneg hup]
    · cases h
  next hdown =>
    cases h
    have hten : (10 : ℚ) ^ e = (10 ^ e.natAbs)⁻¹ := by
      rw [← zpow_natCast, ← zpow_neg, Int.ofNat_natAbs_of_nonpos (by omega), neg_neg]
    rw [Binary64.magnitude_div (magnitudeRatio_powTen _ (by omega)).1,
      Binary64.magnitudeValue_ofNat hn, hpower, decimalValue, hten, div_eq_mul_inv]

/-- Digits that fit are all collected. -/
lemma collectWhole_eq (h : digitsValue n cs ≤ significandLimit) :
    collectWhole n cs = (digitsValue n cs, 0) := by
  induction cs generalizing n with
  | nil => rfl
  | cons c cs ih =>
    have hfirst := (le_digitsValue (10 * n + digitValue c) cs).trans h
    rw [collectWhole, if_pos hfirst]
    exact ih h

lemma collectFraction_eq (h : digitsValue n cs ≤ significandLimit) (k : ℕ) :
    collectFraction n k cs = (digitsValue n cs, k + cs.length) := by
  induction cs generalizing n k with
  | nil => rfl
  | cons c cs ih =>
    have hfirst := (le_digitsValue (10 * n + digitValue c) cs).trans h
    rw [collectFraction, if_pos hfirst, ih h, List.length_cons, Nat.add_assoc, Nat.add_comm 1]
    rfl

lemma negative_of_scaleTen? (hx : x.negative = false) (h : scaleTen? x e fuel = some y) :
    y.negative = false := by
  have hpower : ∀ k, (powTen k).negative = false := fun _ => rfl
  induction fuel generalizing x e with
  | zero =>
    cases h
    exact hx
  | succ fuel ih =>
    have hmul : (x.mul (powTen e.natAbs)).negative = false := by
      simp [Binary64.mul, Binary64.ofRatio, hx, hpower]
    have hdiv : ∀ k, (x.div (powTen k)).negative = false := fun k => by
      simp [Binary64.div, Binary64.ofRatio, hx, hpower]
    rw [scaleTen?] at h
    split at h
    · split at h
      · dsimp only at h
        split at h
        · cases h
          exact hmul
        · cases h
      · cases h
        exact hdiv _
    · split at h
      · cases h
        exact hx
      · split at h
        · cases h
        · exact ih (hdiv _) h

namespace Literal

/-- The digits as one number and the power of ten are doubles as they are. -/
def Short (l : Literal) : Prop :=
  l.number ≤ 2 ^ 53 ∧ l.tens.natAbs ≤ 22 ∧ l.written ≤ exponentLimit

lemma collected_eq (h : l.number ≤ significandLimit) :
    l.collected = (l.number, -((l.fraction.getD []).length : ℤ)) := by
  rw [number, digitsValue_append] at h
  have hwhole := (le_digitsValue _ _).trans h
  simp [collected, collectWhole_eq hwhole, collectFraction_eq h, number, digitsValue_append]

/-- A short literal is its digits scaled once by its power of ten. -/
lemma float?_of_short (h : l.Short) :
    l.float? = (approximate? l.number l.tens).map fun x => if l.negative then x.neg else x := by
  obtain ⟨hn, he, hw⟩ := h
  have hcollected := collected_eq (hn.trans (by decide))
  simp only [float?, hcollected]
  congr 1
  cases hexponent : l.exponent with
  | none => simp [tens, written, hexponent]
  | some part =>
    obtain ⟨down, ds⟩ := part
    have hwritten : l.written = signed down (digitsValue 0 ds) := by simp [written, hexponent]
    have hlimit : ¬ exponentLimit < digitsValue 0 ds := by
      simp only [tens, hwritten, signed, exponentLimit] at he hw ⊢
      cases down with
      | true =>
        simp only [if_true] at he
        omega
      | false =>
        simp only [Bool.false_eq_true, if_false] at hw
        omega
    have hpower : (if down then -((l.fraction.getD []).length : ℤ) - digitsValue 0 ds
        else -((l.fraction.getD []).length : ℤ) + digitsValue 0 ds) = l.tens := by
      simp only [tens, hwritten, signed]
      split <;> ring
    have hclamp : max (-0x80000000) (min 0x7FFFFFFF l.tens) = l.tens := by omega
    simp only [scaleBy?, if_neg hlimit, hpower, hclamp]

/-- The double of a short literal is the nearest one. -/
theorem magnitude_of_short (h : l.Short) (hx : l.float? = some x) :
    x.magnitude = nearestMagnitude l.decimal := by
  obtain ⟨y, hy, rfl⟩ := Option.map_eq_some_iff.mp (float?_of_short h ▸ hx)
  rw [decimal, ← magnitude_of_approximate? h.1 h.2.1 hy]
  split <;> rfl

lemma negative_of_float? (h : l.float? = some x) : x.negative = l.negative := by
  have hsigned : ∀ y : Binary64, y.negative = false →
      (if l.negative then y.neg else y).negative = l.negative := by
    intro y hy
    cases l.negative <;> simp [Binary64.neg, hy]
  obtain ⟨y, hy, rfl⟩ := Option.map_eq_some_iff.mp h
  refine hsigned y ?_
  have happroximate : ∀ {n e}, approximate? n e = some y → y.negative = false :=
    negative_of_scaleTen? rfl
  split at hy
  · exact happroximate hy
  · rw [scaleBy?] at hy
    split at hy
    · split at hy
      · cases hy
        rfl
      · cases hy
    · exact happroximate hy

end Literal

end Json

end StepConditions
