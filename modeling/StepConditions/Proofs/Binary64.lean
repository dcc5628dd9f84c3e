import Mathlib
import StepConditions.Numeric.Binary64
import StepConditions.Proofs.Rounding

/-!
# Order and integers among the doubles

Doubles that are numbers are ordered by one integer key. Every integer has a
nearest double, and two integers share it only outside the range in which all are exact.
-/
namespace StepConditions.Numeric.Binary64
variable {x y : Binary64} {i j : ℤ}

lemma order?_of_numbers (hx : x.isNaN = false) (hy : y.isNaN = false) :
    x.order? y = some (compare x.key y.key) := by
  simp [order?, hx, hy]

lemma order_of_numbers (hx : x.isNaN = false) (hy : y.isNaN = false) :
    x.order y = compare x.key y.key := by
  simp [order, order?_of_numbers hx hy]

lemma sameValue_iff (hx : x.isNaN = false) (hy : y.isNaN = false) :
    x.sameValue y = true ↔ x.key = y.key := by
  simp [sameValue, order?_of_numbers hx hy]

lemma key_eq_key_iff (h : x.negative = y.negative) : x.key = y.key ↔ x.magnitude = y.magnitude := by
  simp only [key, h]
  split <;> omega

lemma isNaN_of_isFinite (hx : x.isFinite = true) : x.isNaN = false :=
  decide_eq_false (of_decide_eq_true hx).not_gt

lemma isNaN_ofInt (i : ℤ) : (ofInt i).isNaN = false :=
  decide_eq_false (roundRatio_le i.natAbs 1).not_gt

lemma magnitude_ofInt (i : ℤ) : (ofInt i).magnitude = nearestMagnitude i.natAbs := by
  change roundRatio i.natAbs 1 = _
  rw [roundRatio_eq _ one_pos, Nat.cast_one, div_one]

lemma negative_ofInt (i : ℤ) : (ofInt i).negative = decide (i < 0) := rfl

/-- Only zero is as near as possible to zero. -/
lemma magnitude_ofInt_pos (hi : i ≠ 0) : 0 < (ofInt i).magnitude := by
  rw [magnitude_ofInt, Nat.pos_iff_ne_zero]
  intro h
  have h0 : nearestMagnitude (0 : ℕ) = nearestMagnitude i.natAbs := by
    rw [h]
    simp [nearestMagnitude]
  have := le_of_nearestMagnitude_eq (Int.natAbs_pos.mpr hi) h0
  omega

lemma ofInt_eq_of_key_eq (h : (ofInt i).key = (ofInt j).key) : ofInt i = ofInt j := by
  have hi := fun hi => magnitude_ofInt_pos (i := i) hi
  have hj := fun hj => magnitude_ofInt_pos (i := j) hj
  simp only [key, negative_ofInt, decide_eq_true_eq] at h
  apply ext
  · rw [negative_ofInt, negative_ofInt, decide_eq_decide]
    split at h <;> split at h <;> omega
  · split at h <;> split at h <;> omega

/-- Integers that share their nearest double lie on one side of zero, at least `2 ^ 53` away
from it. -/
theorem le_natAbs_of_ofInt_eq (hij : i ≠ j) (h : ofInt i = ofInt j) :
    2 ^ 53 ≤ i.natAbs ∧ 2 ^ 53 ≤ j.natAbs ∧ i.natAbs ≠ j.natAbs := by
  have hs : i < 0 ↔ j < 0 := by
    have := congrArg negative h
    rwa [negative_ofInt, negative_ofInt, decide_eq_decide] at this
  have hm : nearestMagnitude i.natAbs = nearestMagnitude j.natAbs := by
    rw [← magnitude_ofInt, ← magnitude_ofInt, h]
  rcases lt_trichotomy i.natAbs j.natAbs with hlt | heq | hlt
  · have := le_of_nearestMagnitude_eq hlt hm
    omega
  · omega
  · have := le_of_nearestMagnitude_eq hlt hm.symm
    omega

end StepConditions.Numeric.Binary64
