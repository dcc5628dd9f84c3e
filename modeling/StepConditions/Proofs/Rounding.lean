import Mathlib
import StepConditions.Numeric.Rounding

/-!
# Rounding as a function of the value

Rounding a quotient depends on its value alone: `nearestMagnitude` says how, on rational numbers.
It is monotone, and exact on numbers with a short significand such as the natural numbers up to
`2 ^ 53`.
-/
namespace StepConditions.Numeric

/-- The natural number nearest to a nonnegative rational; of two equally near ones, the even one. -/
def halfEven (x : ℚ) : ℕ :=
  if ⌊x⌋₊ + 1 / 2 < x ∨ x = ⌊x⌋₊ + 1 / 2 ∧ ⌊x⌋₊ % 2 = 1 then ⌊x⌋₊ + 1 else ⌊x⌋₊

lemma roundHalfEven_eq (n : ℕ) {d : ℕ} (hd : 0 < d) : roundHalfEven n d = halfEven (n / d) := by
  have hdq : (0 : ℚ) < d := by exact_mod_cast hd
  have hx : (n : ℚ) / d = (n / d : ℕ) + ((n % d : ℕ) : ℚ) / d := by
    have h : (n : ℚ) = d * (n / d : ℕ) + (n % d : ℕ) := by exact_mod_cast (Nat.div_add_mod n d).symm
    rw [h]
    field_simp
  have hlt : ((n / d : ℕ) : ℚ) + 1 / 2 < n / d ↔ d < 2 * (n % d) := by
    rw [hx, add_lt_add_iff_left, div_lt_div_iff₀ two_pos hdq]
    norm_cast
    omega
  have heq : (n : ℚ) / d = (n / d : ℕ) + 1 / 2 ↔ 2 * (n % d) = d := by
    rw [hx, add_right_inj, div_eq_div_iff hdq.ne' two_ne_zero]
    norm_cast
    omega
  simp only [halfEven, Nat.floor_div_eq_div, hlt, heq, roundHalfEven]
  simp only [Bool.or_eq_true, decide_eq_true_eq, Bool.and_eq_true, beq_iff_eq]

lemma halfEven_natCast (n : ℕ) : halfEven n = n := by
  simp [halfEven]

lemma halfEven_mono {x y : ℚ} (h : x ≤ y) : halfEven x ≤ halfEven y := by
  have hf : ⌊x⌋₊ ≤ ⌊y⌋₊ := Nat.floor_mono h
  have hx : halfEven x ≤ ⌊x⌋₊ + 1 := by
    unfold halfEven
    split <;> omega
  have hy : ⌊y⌋₊ ≤ halfEven y := by
    unfold halfEven
    split <;> omega
  rcases hf.lt_or_eq with hlt | heq
  · omega
  · -- between the same two neighbours the larger number rounds up if the smaller one does
    simp only [halfEven, heq]
    split
    next hup =>
      have : (⌊y⌋₊ : ℚ) + 1 / 2 < y ∨ y = ⌊y⌋₊ + 1 / 2 ∧ ⌊y⌋₊ % 2 = 1 := by
        rcases hup with hup | ⟨hup, hodd⟩
        · exact .inl (hup.trans_le h)
        · rcases (hup ▸ h).lt_or_eq with hy | hy
          · exact .inl hy
          · exact .inr ⟨hy.symm, hodd⟩
      rw [if_pos this]
    next => split <;> omega

/-- The weight of the last place of the magnitudes next to a number is two to this power. -/
def lastPlace (x : ℚ) : ℤ := max (Int.log 2 x - 52) (-1074)

/-- The magnitude nearest to a nonnegative rational. -/
def nearestMagnitude (x : ℚ) : ℕ :=
  if x = 0 then 0
  else min ((lastPlace x + 1074).toNat * binade + halfEven (x / 2 ^ lastPlace x)) infiniteMagnitude

/-- The quotient with its divisor scaled by a power of two that may be negative. -/
lemma scaled_quotient (e : ℤ) (n d : ℕ) :
    (n : ℚ) / d / 2 ^ e =
      if 0 ≤ e then (n : ℚ) / (d <<< e.toNat : ℕ) else ((n <<< (-e).toNat : ℕ) : ℚ) / d := by
  split
  next h =>
    obtain ⟨k, rfl⟩ := Int.eq_ofNat_of_zero_le h
    rw [Int.toNat_natCast, Nat.shiftLeft_eq]
    push_cast
    rw [zpow_natCast, div_div]
  next h =>
    obtain ⟨k, hk⟩ := Int.eq_ofNat_of_zero_le (show 0 ≤ -e by omega)
    obtain rfl : e = -k := by omega
    rw [neg_neg, Int.toNat_natCast, Nat.shiftLeft_eq]
    push_cast
    rw [zpow_neg, zpow_natCast]
    field_simp

lemma shiftLeft_cast_pos {d : ℕ} (hd : 0 < d) (k : ℕ) : (0 : ℚ) < (d <<< k : ℕ) := by
  rw [Nat.shiftLeft_eq]
  positivity

lemma powTwoLe_iff (e : ℤ) (n : ℕ) {d : ℕ} (hd : 0 < d) :
    powTwoLe e n d = true ↔ (2 : ℚ) ^ e ≤ n / d := by
  have he : (0 : ℚ) < 2 ^ e := zpow_pos two_pos e
  rw [← one_le_div he, scaled_quotient, powTwoLe]
  split
  next h =>
    rw [one_le_div (shiftLeft_cast_pos hd _), decide_eq_true_eq]
    norm_cast
  next h =>
    rw [one_le_div (by exact_mod_cast hd), decide_eq_true_eq]
    norm_cast

lemma natLog2_bounds {n : ℕ} (hn : 0 < n) :
    (2 : ℚ) ^ (n.log2 : ℤ) ≤ n ∧ (n : ℚ) < 2 ^ ((n.log2 : ℤ) + 1) := by
  constructor
  · rw [zpow_natCast]
    exact_mod_cast Nat.log2_self_le hn.ne'
  · rw [← Nat.cast_succ, zpow_natCast]
    exact_mod_cast Nat.lt_log2_self

lemma ratioLog2_eq {n d : ℕ} (hn : 0 < n) (hd : 0 < d) : ratioLog2 n d = Int.log 2 (n / d : ℚ) := by
  have hdq : (0 : ℚ) < d := by exact_mod_cast hd
  have hx : (0 : ℚ) < n / d := div_pos (by exact_mod_cast hn) hdq
  obtain ⟨hnl, hnu⟩ := natLog2_bounds hn
  obtain ⟨hdl, hdu⟩ := natLog2_bounds hd
  -- the two logarithms leave only two candidates, and one comparison decides between them
  have hl : (2 : ℚ) ^ ((n.log2 : ℤ) - d.log2 - 1) ≤ n / d := by
    rw [le_div_iff₀ hdq]
    calc (2 : ℚ) ^ ((n.log2 : ℤ) - d.log2 - 1) * d
        ≤ 2 ^ ((n.log2 : ℤ) - d.log2 - 1) * 2 ^ ((d.log2 : ℤ) + 1) := by gcongr
      _ = 2 ^ (n.log2 : ℤ) := by
        rw [← zpow_add₀ two_ne_zero]
        congr 1
        ring
      _ ≤ n := hnl
  have hu : (n : ℚ) / d < 2 ^ ((n.log2 : ℤ) - d.log2 + 1) := by
    rw [div_lt_iff₀ hdq]
    calc (n : ℚ) < 2 ^ ((n.log2 : ℤ) + 1) := hnu
      _ = 2 ^ ((n.log2 : ℤ) - d.log2 + 1) * 2 ^ (d.log2 : ℤ) := by
        rw [← zpow_add₀ two_ne_zero]
        congr 1
        ring
      _ ≤ 2 ^ ((n.log2 : ℤ) - d.log2 + 1) * d := by gcongr
  have hl' := (Int.zpow_le_iff_le_log one_lt_two hx).mp (by rwa [Nat.cast_two])
  have hu' := (Int.lt_zpow_iff_log_lt one_lt_two hx).mp (by rwa [Nat.cast_two])
  have hc := powTwoLe_iff ((n.log2 : ℤ) - d.log2) n hd
  rw [← Nat.cast_two, Int.zpow_le_iff_le_log one_lt_two hx] at hc
  simp only [ratioLog2]
  split
  next h =>
    have := hc.mp h
    omega
  next h =>
    have := mt hc.mpr h
    omega

/-- Rounding depends on the value of the quotient alone. -/
theorem roundRatio_eq (n : ℕ) {d : ℕ} (hd : 0 < d) :
    roundRatio n d = nearestMagnitude (n / d) := by
  unfold roundRatio nearestMagnitude
  rcases Nat.eq_zero_or_pos n with rfl | hn
  · simp
  · have hx : (n : ℚ) / d ≠ 0 := by positivity
    rw [if_neg hn.ne', if_neg hx, ratioLog2_eq hn hd]
    change min ((lastPlace (n / d) + 1074).toNat * binade +
      if 0 ≤ lastPlace (n / d) then _ else _) _ = _
    congr 2
    rw [scaled_quotient]
    split
    next => exact roundHalfEven_eq _ (by exact_mod_cast shiftLeft_cast_pos hd _)
    next => exact roundHalfEven_eq _ hd

section
variable {x y : ℚ}

lemma lastPlace_mono (hx : 0 < x) (h : x ≤ y) : lastPlace x ≤ lastPlace y := by
  have := Int.log_mono_right (b := 2) hx h
  unfold lastPlace
  omega

lemma div_lastPlace_lt (x : ℚ) : x / 2 ^ lastPlace x < 2 ^ 53 := by
  rw [div_lt_iff₀ (zpow_pos two_pos _)]
  calc x < ((2 : ℕ) : ℚ) ^ (Int.log 2 x + 1) := Int.lt_zpow_succ_log_self one_lt_two x
    _ ≤ 2 ^ (53 + lastPlace x) := by
      rw [Nat.cast_two]
      apply zpow_le_zpow_right₀ one_le_two
      unfold lastPlace
      omega
    _ = 2 ^ 53 * 2 ^ lastPlace x := zpow_add₀ two_ne_zero 53 _

/-- Above the smallest last place the significand is never short. -/
lemma le_div_lastPlace (hx : 0 < x) (h : -1074 < lastPlace x) : 2 ^ 52 ≤ x / 2 ^ lastPlace x := by
  rw [le_div_iff₀ (zpow_pos two_pos _)]
  calc (2 : ℚ) ^ 52 * 2 ^ lastPlace x = 2 ^ (52 + lastPlace x) :=
        (zpow_add₀ two_ne_zero 52 _).symm
    _ = ((2 : ℕ) : ℚ) ^ Int.log 2 x := by
      rw [Nat.cast_two]
      congr 1
      unfold lastPlace at h ⊢
      omega
    _ ≤ x := Int.zpow_log_le_self one_lt_two hx

theorem nearestMagnitude_mono (hx : 0 ≤ x) (h : x ≤ y) :
    nearestMagnitude x ≤ nearestMagnitude y := by
  rcases hx.eq_or_lt with rfl | hx
  · simp [nearestMagnitude]
  have hy : 0 < y := hx.trans_le h
  rw [nearestMagnitude, nearestMagnitude, if_neg hx.ne', if_neg hy.ne']
  apply min_le_min_right
  rcases (lastPlace_mono hx h).eq_or_lt with he | hlt
  · rw [he]
    gcongr
    exact halfEven_mono (by gcongr)
  · -- the smaller number ends at most where the next binade begins
    have hq : halfEven (x / 2 ^ lastPlace x) ≤ 2 ^ 53 := by
      rw [← halfEven_natCast (2 ^ 53)]
      exact halfEven_mono (by exact_mod_cast (div_lastPlace_lt x).le)
    have hlow : -1074 ≤ lastPlace x := le_max_right _ _
    have hq' : 2 ^ 52 ≤ halfEven (y / 2 ^ lastPlace y) := by
      rw [← halfEven_natCast (2 ^ 52)]
      exact halfEven_mono (by exact_mod_cast le_div_lastPlace hy (by omega))
    simp only [binade]
    omega

end

lemma significand_of_lt {m : ℕ} (h : m < binade) : significand m = m :=
  if_pos h

lemma significand_of_le {m : ℕ} (h : binade ≤ m) : significand m = binade + m % binade :=
  if_neg h.not_gt

/-- The number that a finite magnitude stands for. -/
def magnitudeValue (m : ℕ) : ℚ :=
  significand m * 2 ^ placeExponent m

/-- A number with a short enough significand is the value of a magnitude. -/
lemma magnitudeValue_nearestMagnitude {x : ℚ} {q : ℕ} (hx : 0 < x) (hq : x = q * 2 ^ lastPlace x)
    (hfin : lastPlace x ≤ 970) : magnitudeValue (nearestMagnitude x) = x := by
  have hp : (0 : ℚ) < 2 ^ lastPlace x := zpow_pos two_pos _
  have hd : x / 2 ^ lastPlace x = q := by
    rw [div_eq_iff hp.ne']
    exact hq
  have hlow : -1074 ≤ lastPlace x := le_max_right _ _
  have hlt : q < 2 ^ 53 := by
    have := div_lastPlace_lt x
    rw [hd] at this
    exact_mod_cast this
  have hle : -1074 < lastPlace x → 2 ^ 52 ≤ q := fun h => by
    have := le_div_lastPlace hx h
    rw [hd] at this
    exact_mod_cast this
  have hn : nearestMagnitude x = (lastPlace x + 1074).toNat * binade + q := by
    rw [nearestMagnitude, if_neg hx.ne', hd, halfEven_natCast, min_eq_left]
    simp only [binade, infiniteMagnitude]
    omega
  have hs : significand (nearestMagnitude x) = q := by
    rw [hn]
    by_cases h : (lastPlace x + 1074).toNat * binade + q < binade
    · rw [significand_of_lt h]
      simp only [binade] at h ⊢
      omega
    · rw [significand_of_le (not_lt.mp h)]
      simp only [binade] at h ⊢
      omega
  have he : placeExponent (nearestMagnitude x) = lastPlace x := by
    rw [hn]
    simp only [placeExponent, binade]
    omega
  rw [magnitudeValue, hs, he, ← hq]

lemma significand_lt (m : ℕ) : significand m < 2 ^ 53 := by
  unfold significand
  split
  next h => exact h.trans (by decide)
  next =>
    have := Nat.mod_lt m (show 0 < binade by decide)
    simp only [binade] at this ⊢
    omega

lemma significand_pos {m : ℕ} (hm : 0 < m) : 0 < significand m := by
  unfold significand
  split
  · exact hm
  · exact Nat.add_pos_left (by decide) _

/-- The last place of the value of a magnitude is the one of the magnitude. -/
lemma lastPlace_magnitudeValue {m : ℕ} (hm : 0 < m) :
    lastPlace (magnitudeValue m) = placeExponent m := by
  have hpow : (0 : ℚ) < 2 ^ placeExponent m := zpow_pos two_pos _
  have hs : (0 : ℚ) < significand m := by exact_mod_cast significand_pos hm
  have hx : 0 < magnitudeValue m := mul_pos hs hpow
  have hhigh : Int.log 2 (magnitudeValue m) < 53 + placeExponent m := by
    rw [← Int.lt_zpow_iff_log_lt one_lt_two hx, Nat.cast_two, zpow_add₀ two_ne_zero, magnitudeValue]
    gcongr
    exact_mod_cast significand_lt m
  by_cases h : m < binade
  · have hp : placeExponent m = -1074 := by
      simp [placeExponent, Nat.div_eq_of_lt h]
    unfold lastPlace
    omega
  · have hlow : 52 + placeExponent m ≤ Int.log 2 (magnitudeValue m) := by
      rw [← Int.zpow_le_iff_le_log one_lt_two hx, Nat.cast_two, zpow_add₀ two_ne_zero, magnitudeValue]
      gcongr
      rw [significand_of_le (not_lt.mp h)]
      exact_mod_cast Nat.le_add_right binade (m % binade)
    have hp : -1074 ≤ placeExponent m := by
      unfold placeExponent
      omega
    unfold lastPlace
    omega

/-- Every finite magnitude is the nearest one to its value. -/
theorem nearestMagnitude_magnitudeValue {m : ℕ} (hm : m ≤ infiniteMagnitude) :
    nearestMagnitude (magnitudeValue m) = m := by
  rcases Nat.eq_zero_or_pos m with rfl | hpos
  · simp [nearestMagnitude, magnitudeValue, significand, binade]
  have hpow : (0 : ℚ) < 2 ^ placeExponent m := zpow_pos two_pos _
  have hs : (0 : ℚ) < significand m := by exact_mod_cast significand_pos hpos
  have hx : 0 < magnitudeValue m := mul_pos hs hpow
  have hd : magnitudeValue m / 2 ^ placeExponent m = significand m := by
    rw [magnitudeValue]
    field_simp
  rw [nearestMagnitude, if_neg hx.ne', lastPlace_magnitudeValue hpos, hd, halfEven_natCast]
  by_cases h : m < binade
  · rw [significand_of_lt h]
    simp only [placeExponent, Nat.div_eq_of_lt h]
    simpa using hm
  · rw [significand_of_le (not_lt.mp h)]
    simp only [placeExponent, binade, infiniteMagnitude] at h hm ⊢
    omega

/-- Every natural number up to `2 ^ 53` is the value of a magnitude. -/
theorem magnitudeValue_natCast {n : ℕ} (hn : n ≤ 2 ^ 53) :
    magnitudeValue (nearestMagnitude n) = n := by
  rcases Nat.eq_zero_or_pos n with rfl | hpos
  · simp [nearestMagnitude, magnitudeValue, significand, binade]
  have hx : (0 : ℚ) < n := by exact_mod_cast hpos
  have hp : lastPlace n = (Nat.log 2 n : ℤ) - 52 := by
    rw [lastPlace, Int.log_natCast]
    omega
  rcases hn.eq_or_lt with rfl | hlt
  · have hl : lastPlace ((2 ^ 53 : ℕ) : ℚ) = 1 := by
      rw [hp, Nat.log_pow one_lt_two]
      norm_num
    apply magnitudeValue_nearestMagnitude (q := 2 ^ 52) hx _ (by omega)
    rw [hl]
    norm_num
  · have hl : Nat.log 2 n < 53 := Nat.log_lt_of_lt_pow hpos.ne' hlt
    apply magnitudeValue_nearestMagnitude (q := n * 2 ^ (52 - Nat.log 2 n)) hx _ (by omega)
    have he : lastPlace n = -((52 - Nat.log 2 n : ℕ) : ℤ) := by omega
    rw [he, zpow_neg, zpow_natCast]
    push_cast
    field_simp

/-- Two natural numbers with one nearest magnitude have left the range where all are exact. -/
theorem le_of_nearestMagnitude_eq {m n : ℕ} (h : m < n)
    (he : nearestMagnitude m = nearestMagnitude n) : 2 ^ 53 ≤ m := by
  by_contra hm
  have h1 : nearestMagnitude m ≤ nearestMagnitude (m + 1 : ℕ) :=
    nearestMagnitude_mono (by positivity) (by push_cast; linarith)
  have h2 : nearestMagnitude (m + 1 : ℕ) ≤ nearestMagnitude n :=
    nearestMagnitude_mono (by positivity) (by exact_mod_cast h)
  have hs : nearestMagnitude (m + 1 : ℕ) = nearestMagnitude m := by omega
  have hv := magnitudeValue_natCast (n := m + 1) (by omega)
  rw [hs, magnitudeValue_natCast (by omega)] at hv
  have : m = m + 1 := by exact_mod_cast hv
  omega

end StepConditions.Numeric
