import Mathlib
import StepConditions.Proofs.Comparison

/-!
# The order of numbers beside the exact one

A finite number is ordered by the key of the double nearest to its exact value. Going to the nearest
double is monotone, so the order of two numbers is never the reverse of the exact one; only integers
beyond `2 ^ 53` may be moved at all.
-/
namespace StepConditions

namespace Numeric

/-- The key of the double nearest to a rational. -/
def nearestKey (x : ℚ) : ℤ :=
  if x < 0 then -nearestMagnitude (-x) else nearestMagnitude x

lemma nearestMagnitude_zero : nearestMagnitude 0 = 0 :=
  if_pos rfl

theorem nearestKey_mono {x y : ℚ} (h : x ≤ y) : nearestKey x ≤ nearestKey y := by
  unfold nearestKey
  split
  next hx =>
    split
    next hy =>
      have hmono := nearestMagnitude_mono (x := -y) (y := -x) (by linarith) (by linarith)
      omega
    next => omega
  next hx =>
    have hy : ¬ y < 0 := by linarith
    have hmono := nearestMagnitude_mono (not_lt.mp hx) h
    rw [if_neg hy]
    omega

lemma magnitudeValue_zero : magnitudeValue 0 = 0 := by
  simp [magnitudeValue, significand, binade]

lemma magnitudeValue_pos {m : ℕ} (hm : 0 < m) : 0 < magnitudeValue m := by
  have hs : (0 : ℚ) < significand m := by exact_mod_cast significand_pos hm
  exact mul_pos hs (zpow_pos two_pos _)

namespace Binary64
variable {x y : Binary64} {i : ℤ}

/-- The number that a finite double is. -/
def value (x : Binary64) : ℚ :=
  if x.negative then -magnitudeValue x.magnitude else magnitudeValue x.magnitude

lemma key_eq_nearestKey (hx : x.isFinite = true) : x.key = nearestKey x.value := by
  have hm : nearestMagnitude (magnitudeValue x.magnitude) = x.magnitude :=
    nearestMagnitude_magnitudeValue (of_decide_eq_true hx).le
  rcases Nat.eq_zero_or_pos x.magnitude with hzero | hpos
  · simp [key, value, nearestKey, hzero, magnitudeValue_zero, nearestMagnitude_zero]
  · have hv := magnitudeValue_pos hpos
    cases hs : x.negative with
    | true => simp [key, value, nearestKey, hs, hv, hm]
    | false => simp [key, value, nearestKey, hs, hv.not_gt, hm]

lemma key_ofInt (i : ℤ) : (ofInt i).key = nearestKey i := by
  by_cases hi : i < 0
  · have hcast : -(i : ℚ) = i.natAbs := by
      rw [Nat.cast_natAbs, abs_of_neg hi, Int.cast_neg]
    have hneg : (i : ℚ) < 0 := by exact_mod_cast hi
    rw [nearestKey, if_pos hneg, hcast, ← magnitude_ofInt, key, negative_ofInt]
    simp [hi]
  · have hcast : (i : ℚ) = i.natAbs := by
      rw [Nat.cast_natAbs, abs_of_nonneg (not_lt.mp hi)]
    have hneg : ¬ (i : ℚ) < 0 := by exact_mod_cast hi
    rw [nearestKey, if_neg hneg, hcast, ← magnitude_ofInt, key, negative_ofInt]
    simp [hi]

/-- Integers up to `2 ^ 53` are doubles as they are. -/
lemma value_ofInt (hi : i.natAbs ≤ 2 ^ 53) : (ofInt i).value = i := by
  have hm : magnitudeValue (ofInt i).magnitude = i.natAbs := by
    rw [magnitude_ofInt, magnitudeValue_natCast hi]
  rw [value, hm, negative_ofInt, Nat.cast_natAbs]
  by_cases h : i < 0
  · simp [h, abs_of_neg]
  · simp [h, abs_of_nonneg (not_lt.mp h)]

/-- The key tells the number; only the zeros share one. -/
lemma value_eq_of_key_eq (h : x.key = y.key) : x.value = y.value := by
  have hm : x.magnitude = y.magnitude := by
    simp only [key] at h
    split at h <;> split at h <;> omega
  rcases Nat.eq_zero_or_pos y.magnitude with hzero | hpos
  · simp [value, hm, hzero, magnitudeValue_zero]
  · have hs : x.negative = y.negative := by
      simp only [key, hm] at h
      cases hx : x.negative <;> cases hy : y.negative <;> simp [hx, hy] at h ⊢ <;> omega
    rw [value, value, hm, hs]

end Binary64

end Numeric

namespace Value
open Numeric
variable {a b : Value} {x y : ℚ}

/-- The number that a finite numeric value is. -/
def rational? : Value → Option ℚ
  | int i => some i.toInt
  | long i => some i.toInt
  | float x => if x.isFinite then some x.value else none
  | _ => none

/-- No integer too large to be a double as it is. -/
def Moderate (a : Value) : Prop :=
  ∀ i, a.int? = some i → i.natAbs ≤ 2 ^ 53

lemma rational?_of_int? {i : ℤ} (h : a.int? = some i) : a.rational? = some (i : ℚ) := by
  cases a <;> simp_all [int?, rational?]

lemma exists_double (h : a.rational? = some x) :
    ∃ d, a.HasDouble d ∧ d.key = nearestKey x ∧ (a.Moderate → d.value = x) := by
  cases hi : a.int? with
  | some i =>
    obtain rfl := Option.some.inj ((rational?_of_int? hi).symm.trans h)
    exact ⟨_, ⟨float?_of_int? hi, Binary64.isNaN_ofInt i⟩, Binary64.key_ofInt i,
      fun hm => Binary64.value_ofInt (hm i hi)⟩
  | none =>
    cases a with
    | float d =>
      simp only [rational?] at h
      split at h
      next hd =>
        obtain rfl := Option.some.inj h
        exact ⟨d, ⟨rfl, Binary64.isNaN_of_isFinite hd⟩, Binary64.key_eq_nearestKey hd, fun _ => rfl⟩
      next => cases h
    | int i => cases hi
    | long i => cases hi
    | _ => cases h

/-- Equal numbers are ordered as equal and no smaller number above a larger one; below it is one for
certain if no integer is beyond `2 ^ 53`. -/
theorem order_of_rational? (ha : a.rational? = some x) (hb : b.rational? = some y) :
    (x = y → a.order b = .ok .eq) ∧
    (x < y → a.order b = .ok .lt ∨ a.order b = .ok .eq) ∧
    (x < y → a.Moderate → b.Moderate → a.order b = .ok .lt) := by
  obtain ⟨d, hd, hdkey, hdvalue⟩ := exists_double ha
  obtain ⟨e, he, hekey, hevalue⟩ := exists_double hb
  rw [order_of_hasDouble hd he]
  have hle : x < y → d.key ≤ e.key := fun h => by
    rw [hdkey, hekey]
    exact nearestKey_mono h.le
  refine ⟨fun h => ?_, fun h => ?_, fun h hma hmb => ?_⟩
  · rw [compare_eq_iff_eq.mpr (by rw [hdkey, hekey, h])]
  · rcases (hle h).lt_or_eq with hlt | heq
    · exact .inl (by rw [compare_lt_iff_lt.mpr hlt])
    · exact .inr (by rw [compare_eq_iff_eq.mpr heq])
  · have hne : d.key ≠ e.key := fun hkey => by
      have hvalue := Binary64.value_eq_of_key_eq hkey
      rw [hdvalue hma, hevalue hmb] at hvalue
      exact h.ne hvalue
    rw [compare_lt_iff_lt.mpr (lt_of_le_of_ne (hle h) hne)]

/-- The integers on both sides of the double `2 ^ 53`; the one above is not a double. -/
theorem order_of_rational?_adjacent :
    ((Value.float (.ofInt 9007199254740992)).order (.long 9007199254740993) = .ok .lt ∨
      (Value.float (.ofInt 9007199254740992)).order (.long 9007199254740993) = .ok .eq) ∧
    (Value.long 9007199254740991).order (.float (.ofInt 9007199254740992)) = .ok .lt := by
  have hdouble : (Value.float (.ofInt 9007199254740992)).rational? =
      some ((9007199254740992 : ℤ) : ℚ) := by
    rw [rational?, if_pos (by decide), Binary64.value_ofInt (by decide)]
  have habove : (Value.long 9007199254740993).rational? = some ((9007199254740993 : ℤ) : ℚ) := rfl
  have hbelow : (Value.long 9007199254740991).rational? = some ((9007199254740991 : ℤ) : ℚ) := rfl
  refine ⟨(order_of_rational? hdouble habove).2.1 (by norm_num),
    (order_of_rational? hbelow hdouble).2.2 (by norm_num) ?_ ?_⟩
  · rintro i hi
    obtain rfl : (9007199254740991 : ℤ) = i := Option.some.inj hi
    decide
  · rintro i hi
    cases hi

end Value

end StepConditions
