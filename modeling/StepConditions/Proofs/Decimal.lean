import Mathlib
import StepConditions.Numeric.Shortest
import StepConditions.Proofs.Digits
import StepConditions.Proofs.Rounding

/-!
# Decimal numbers and the doubles nearest to them

Reading a decimal number rounds its value once, however many zeros it is written with. The shortest
decimal text of a finite double is therefore read as that double.
-/
namespace StepConditions.Numeric

section
variable {x : ℚ} {m n : ℕ} {e : ℤ}

/-- The number that digits stand for at a power of ten. -/
def decimalValue (n : ℕ) (e : ℤ) : ℚ :=
  n * 10 ^ e

lemma decimalValue_pos (hn : 0 < n) (e : ℤ) : 0 < decimalValue n e :=
  mul_pos (by exact_mod_cast hn) (zpow_pos (by norm_num) e)

lemma digitCount_pos (n : ℕ) : 0 < digitCount n :=
  List.length_pos_of_ne_nil (digits_ne_nil n)

lemma lt_pow_digitCount (n : ℕ) : n < 10 ^ digitCount n :=
  (Nat.length_toDigits_le_iff (by decide) (digitCount_pos n)).mp le_rfl

lemma pow_digitCount_le (hn : 0 < n) : 10 ^ (digitCount n - 1) ≤ n := by
  rcases Nat.eq_zero_or_pos (digitCount n - 1) with h | h
  · rw [h]
    exact hn
  · by_contra hlt
    have := (Nat.length_toDigits_le_iff (by decide) h).mpr (not_le.mp hlt)
    change digitCount n ≤ digitCount n - 1 at this
    omega

lemma decimalValue_bounds (hn : 0 < n) (e : ℤ) :
    10 ^ (digitCount n + e - 1) ≤ decimalValue n e ∧
      decimalValue n e < 10 ^ (digitCount n + e) := by
  have hten : (0 : ℚ) < 10 := by norm_num
  have hpos := digitCount_pos n
  have hlow : (10 : ℚ) ^ ((digitCount n : ℤ) - 1) ≤ n := by
    have h := pow_digitCount_le hn
    rw [← Nat.cast_pred hpos, zpow_natCast]
    exact_mod_cast h
  have hhigh : (n : ℚ) < 10 ^ (digitCount n : ℤ) := by
    rw [zpow_natCast]
    exact_mod_cast lt_pow_digitCount n
  constructor
  · calc (10 : ℚ) ^ (digitCount n + e - 1) = 10 ^ ((digitCount n : ℤ) - 1) * 10 ^ e := by
          rw [← zpow_add₀ hten.ne']
          congr 1
          ring
      _ ≤ decimalValue n e := by
          unfold decimalValue
          gcongr
  · calc decimalValue n e < 10 ^ (digitCount n : ℤ) * 10 ^ e := by
          unfold decimalValue
          gcongr
      _ = 10 ^ (digitCount n + e) := (zpow_add₀ hten.ne' _ _).symm

lemma nearestMagnitude_of_large (hx : 0 < x) (hlog : 1024 ≤ Int.log 2 x) :
    nearestMagnitude x = infiniteMagnitude := by
  have hp : 972 ≤ lastPlace x := by
    unfold lastPlace
    omega
  have hq : 2 ^ 52 ≤ halfEven (x / 2 ^ lastPlace x) := by
    rw [← halfEven_natCast (2 ^ 52)]
    exact halfEven_mono (by exact_mod_cast le_div_lastPlace hx (by omega))
  rw [nearestMagnitude, if_neg hx.ne', min_eq_right]
  simp only [infiniteMagnitude, binade]
  omega

lemma nearestMagnitude_of_small (hx : 0 < x) (hlog : Int.log 2 x < -1075) :
    nearestMagnitude x = 0 := by
  have hp : lastPlace x = -1074 := by
    unfold lastPlace
    omega
  -- the number is less than half of the smallest step
  have hhalf : x / 2 ^ (-1074 : ℤ) < 1 / 2 := by
    have hlt := (Int.lt_zpow_iff_log_lt one_lt_two hx).mpr hlog
    rw [Nat.cast_two] at hlt
    rw [div_lt_iff₀ (zpow_pos two_pos _)]
    calc x < 2 ^ (-1075 : ℤ) := hlt
      _ = 1 / 2 * 2 ^ (-1075 + 1 : ℤ) := by
        rw [zpow_add_one₀ two_ne_zero]
        ring
  have hq : halfEven (x / 2 ^ (-1074 : ℤ)) = 0 := by
    have hfloor : ⌊x / 2 ^ (-1074 : ℤ)⌋₊ = 0 := Nat.floor_eq_zero.mpr (by linarith)
    rw [halfEven, hfloor, if_neg]
    rintro (h | ⟨-, h⟩)
    · rw [Nat.cast_zero] at h
      linarith
    · cases h
  rw [nearestMagnitude, if_neg hx.ne', hp, hq]
  rfl

lemma two_zpow_le_ten_zpow {j k : ℕ} (h : 2 ^ j ≤ 10 ^ k) : (2 : ℚ) ^ (j : ℤ) ≤ 10 ^ (k : ℤ) := by
  simp only [zpow_natCast]
  exact_mod_cast h

lemma le_log_of_le (hx : 10 ^ (310 : ℤ) ≤ x) : 1024 ≤ Int.log 2 x := by
  have hpos : 0 < x := lt_of_lt_of_le (zpow_pos (by norm_num) _) hx
  rw [← Int.zpow_le_iff_le_log one_lt_two hpos, Nat.cast_two]
  exact (two_zpow_le_ten_zpow (j := 1024) (k := 310) (by decide +kernel)).trans hx

lemma log_lt_of_lt (hpos : 0 < x) (hx : x < 10 ^ (-401 : ℤ)) : Int.log 2 x < -1075 := by
  rw [← Int.lt_zpow_iff_log_lt one_lt_two hpos, Nat.cast_two]
  refine hx.trans_le ?_
  rw [zpow_neg, zpow_neg]
  exact inv_anti₀ (zpow_pos two_pos _)
    (two_zpow_le_ten_zpow (j := 1075) (k := 401) (by decide +kernel))

/-- Reading a decimal number rounds its value. -/
theorem decimalMagnitude_eq (n : ℕ) (e : ℤ) :
    decimalMagnitude n e = nearestMagnitude (decimalValue n e) := by
  rcases Nat.eq_zero_or_pos n with rfl | hn
  · simp [decimalMagnitude, decimalValue, nearestMagnitude]
  obtain ⟨hlow, hhigh⟩ := decimalValue_bounds hn e
  have hpos := decimalValue_pos hn e
  have hten : (1 : ℚ) ≤ 10 := by norm_num
  simp only [decimalMagnitude, hn.ne', if_false]
  split
  next h =>
    have hle : (10 : ℚ) ^ (310 : ℤ) ≤ 10 ^ (digitCount n + e - 1) :=
      zpow_le_zpow_right₀ hten (by omega)
    exact (nearestMagnitude_of_large hpos (le_log_of_le (hle.trans hlow))).symm
  next =>
    split
    next h =>
      have hle : (10 : ℚ) ^ (digitCount n + e) ≤ 10 ^ (-401 : ℤ) :=
        zpow_le_zpow_right₀ hten (by omega)
      exact (nearestMagnitude_of_small hpos (log_lt_of_lt hpos (hhigh.trans_le hle))).symm
    next =>
      split
      next h =>
        obtain ⟨k, rfl⟩ := Int.eq_ofNat_of_zero_le h
        rw [roundRatio_eq _ one_pos, decimalValue]
        simp
      next h =>
        obtain ⟨k, hk⟩ := Int.eq_ofNat_of_zero_le (show 0 ≤ -e by omega)
        obtain rfl : e = -k := by omega
        have hd : 0 < Nat.pow 10 (- -(k : ℤ)).toNat := Nat.pow_pos (by decide)
        rw [roundRatio_eq _ hd, decimalValue]
        simp [div_eq_mul_inv]

end

end StepConditions.Numeric
