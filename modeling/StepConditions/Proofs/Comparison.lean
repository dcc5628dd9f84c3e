import Mathlib
import StepConditions.Operator
import StepConditions.Proofs.Binary64

/-!
# Equality and order of operands

Numbers are ordered by their nearest doubles, and equality agrees with that order but for different
integers that share one: these are unequal, yet neither is above the other. The same pairs are all
that keeps equality from being an equivalence relation.
-/
namespace StepConditions.Value
variable {a b c : Value} {x y : Numeric.Binary64}
open Numeric

/-- Whether the value is a double that is not a number. -/
def isNaN : Value → Bool
  | float x => x.isNaN
  | _ => false

/-- Two different integers with one nearest double. -/
def Collide (a b : Value) : Prop :=
  ∃ i j, a.int? = some i ∧ b.int? = some j ∧ i ≠ j ∧ Binary64.ofInt i = Binary64.ofInt j

/-- The double of a numeric value that is a number. -/
def HasDouble (a : Value) (x : Binary64) : Prop :=
  a.float? = some x ∧ x.isNaN = false

lemma exists_hasDouble (ha : a.isNumeric = true) (hn : a.isNaN = false) : ∃ x, a.HasDouble x := by
  cases a with
  | int i => exact ⟨_, rfl, Binary64.isNaN_ofInt _⟩
  | long i => exact ⟨_, rfl, Binary64.isNaN_ofInt _⟩
  | float x => exact ⟨x, rfl, hn⟩
  | _ => simp [isNumeric] at ha

lemma order_of_hasDouble (ha : a.HasDouble x) (hb : b.HasDouble y) :
    a.order b = .ok (compare x.key y.key) := by
  have hna : a.isNull = false := by
    cases a <;> first | rfl | simp [HasDouble, float?] at ha
  have hnb : b.isNull = false := by
    cases b <;> first | rfl | simp [HasDouble, float?] at hb
  simp [order, hna, hnb, orderPresent, ha.1, hb.1, Binary64.order_of_numbers ha.2 hb.2]

lemma ordered_of_hasDouble (ha : a.HasDouble x) (hb : b.HasDouble y) (test : Ordering → Bool) :
    Operator.ordered test a b = test (compare x.key y.key) := by
  simp [Operator.ordered, order_of_hasDouble ha hb]

lemma float?_of_int? {i : ℤ} (h : a.int? = some i) : a.float? = some (.ofInt i) := by
  cases a <;> simp_all [int?, float?]

lemma HasDouble.eq_ofInt {i : ℤ} (ha : a.HasDouble x) (hi : a.int? = some i) : x = .ofInt i :=
  Option.some.inj (ha.1.symm.trans (float?_of_int? hi))

lemma equal_of_int? {i j : ℤ} (ha : a.int? = some i) (hb : b.int? = some j) :
    a.equal b = (i == j) := by
  cases a <;> cases b <;> simp_all [int?, equal]

lemma equal_of_not_int? (ha : a.float? = some x) (hb : b.float? = some y)
    (h : a.int? = none ∨ b.int? = none) : a.equal b = x.sameValue y := by
  cases a <;> cases b <;> simp_all [int?, float?, equal]

lemma not_collide_of_not_int? (h : a.int? = none ∨ b.int? = none) : ¬ a.Collide b := by
  rintro ⟨i, j, hi, hj, -⟩
  rcases h with h | h <;> simp_all

lemma Collide.symm (h : a.Collide b) : b.Collide a := by
  obtain ⟨i, j, hi, hj, hne, heq⟩ := h
  exact ⟨j, i, hj, hi, hne.symm, heq.symm⟩

/-- Numbers are equal when their doubles are, unless they are different integers. -/
lemma equal_iff (ha : a.HasDouble x) (hb : b.HasDouble y) :
    a.equal b = true ↔ x.key = y.key ∧ ¬ a.Collide b := by
  by_cases h : a.int? = none ∨ b.int? = none
  · rw [equal_of_not_int? ha.1 hb.1 h, Binary64.sameValue_iff ha.2 hb.2]
    simp [not_collide_of_not_int? h]
  · rw [not_or, ← ne_eq, ← ne_eq, Option.ne_none_iff_exists', Option.ne_none_iff_exists'] at h
    obtain ⟨⟨i, hi⟩, j, hj⟩ := h
    rw [equal_of_int? hi hj, beq_iff_eq, ha.eq_ofInt hi, hb.eq_ofInt hj]
    constructor
    · rintro rfl
      refine ⟨rfl, ?_⟩
      rintro ⟨k, l, hk, hl, hne, -⟩
      simp_all
    · rintro ⟨hkey, hc⟩
      by_contra hne
      exact hc ⟨i, j, hi, hj, hne, Binary64.ofInt_eq_of_key_eq hkey⟩

lemma key_eq_of_collide (ha : a.HasDouble x) (hb : b.HasDouble y) (h : a.Collide b) :
    x.key = y.key := by
  obtain ⟨i, j, hi, hj, -, heq⟩ := h
  rw [ha.eq_ofInt hi, hb.eq_ofInt hj, heq]

lemma evaluate_of_find? {token : String} {op : Operator} (h : Operator.find? token = some op)
    (a b : Value) : Operator.evaluate a (some token) b = op.holds a b := by
  simp [Operator.evaluate, h]

/-- Numbers that do not collide are in exactly one of the three relations, and equality is the two
weak orderings together. Numbers that collide are in none of the three but in both weak orderings;
they are integers from `2 ^ 53` on, not both of that magnitude. -/
theorem numeric_comparison (ha : a.isNumeric = true) (hb : b.isNumeric = true)
    (hna : a.isNaN = false) (hnb : b.isNaN = false) :
    (¬ a.Collide b →
      (Operator.evaluate a (some "==") b = true ↔
        Operator.evaluate a (some ">=") b = true ∧ Operator.evaluate a (some "<=") b = true) ∧
      [Operator.evaluate a (some "<") b, Operator.evaluate a (some "==") b,
        Operator.evaluate a (some ">") b].count true = 1) ∧
    (a.Collide b →
      (Operator.evaluate a (some ">=") b = true ∧ Operator.evaluate a (some "<=") b = true) ∧
      [Operator.evaluate a (some "<") b, Operator.evaluate a (some "==") b,
        Operator.evaluate a (some ">") b].count true = 0 ∧
      ∃ i j, a.int? = some i ∧ b.int? = some j ∧ i.natAbs ≠ j.natAbs ∧
        2 ^ 53 ≤ i.natAbs ∧ 2 ^ 53 ≤ j.natAbs) := by
  obtain ⟨x, hx⟩ := exists_hasDouble ha hna
  obtain ⟨y, hy⟩ := exists_hasDouble hb hnb
  have heq := equal_iff hx hy
  rw [evaluate_of_find? (show Operator.find? "<" = some .less from rfl),
    evaluate_of_find? (show Operator.find? "==" = some .equal from rfl),
    evaluate_of_find? (show Operator.find? ">" = some .greater from rfl),
    evaluate_of_find? (show Operator.find? ">=" = some .greaterOrEqual from rfl),
    evaluate_of_find? (show Operator.find? "<=" = some .lessOrEqual from rfl)]
  simp only [Operator.holds, ordered_of_hasDouble hx hy]
  constructor
  · intro hc
    rcases lt_trichotomy x.key y.key with hlt | hkey | hgt
    · have he : a.equal b = false := Bool.eq_false_iff.mpr fun h => hlt.ne (heq.mp h).1
      rw [he, compare_lt_iff_lt.mpr hlt]
      decide
    · have he : a.equal b = true := heq.mpr ⟨hkey, hc⟩
      rw [he, compare_eq_iff_eq.mpr hkey]
      decide
    · have he : a.equal b = false := Bool.eq_false_iff.mpr fun h => hgt.ne' (heq.mp h).1
      rw [he, compare_gt_iff_gt.mpr hgt]
      decide
  · intro hc
    have he : a.equal b = false := Bool.eq_false_iff.mpr fun h => (heq.mp h).2 hc
    rw [he, compare_eq_iff_eq.mpr (key_eq_of_collide hx hy hc)]
    refine ⟨by decide, by decide, ?_⟩
    obtain ⟨i, j, hi, hj, hne, hd⟩ := hc
    obtain ⟨hi', hj', hij⟩ := Binary64.le_natAbs_of_ofInt_eq hne hd
    exact ⟨i, j, hi, hj, hij, hi', hj'⟩

theorem numeric_comparison_long_float :
    [Operator.evaluate (.long 9007199254740992) (some "<") (.float (.ofNat 9007199254740992)),
      Operator.evaluate (.long 9007199254740992) (some "==") (.float (.ofNat 9007199254740992)),
      Operator.evaluate (.long 9007199254740992) (some ">") (.float (.ofNat 9007199254740992))].count
        true = 1 :=
  ((numeric_comparison rfl rfl rfl (by decide)).1 (not_collide_of_not_int? (.inr rfl))).2

/-- The first integer that is no double is unequal to the one before it, yet neither above it nor
below it. -/
theorem weak_orderings_of_unequal_longs :
    ¬ (Operator.evaluate (.long 9007199254740992) (some "==") (.long 9007199254740993) = true ↔
      Operator.evaluate (.long 9007199254740992) (some ">=") (.long 9007199254740993) = true ∧
        Operator.evaluate (.long 9007199254740992) (some "<=") (.long 9007199254740993) = true) := by
  decide

/-- Equality with a value that is no number is identity. -/
lemma equal_iff_eq (h : a.isNumeric = false ∨ b.isNumeric = false) : a.equal b = true ↔ a = b := by
  cases a <;> cases b <;> simp_all [equal, isNumeric, int?, float?]

lemma isNumeric_of_equal (h : a.equal b = true) : a.isNumeric = b.isNumeric := by
  by_cases hn : a.isNumeric = false ∨ b.isNumeric = false
  · rw [(equal_iff_eq hn).mp h]
  · simp only [not_or, Bool.not_eq_false] at hn
    rw [hn.1, hn.2]

lemma equal_self (ha : a.isNaN = false) : a.equal a = true := by
  cases hn : a.isNumeric with
  | false => exact (equal_iff_eq (.inl hn)).mpr rfl
  | true =>
    obtain ⟨x, hx⟩ := exists_hasDouble hn ha
    refine (equal_iff hx hx).mpr ⟨rfl, ?_⟩
    rintro ⟨i, j, hi, hj, hne, -⟩
    simp_all

lemma equal_comm (ha : a.isNaN = false) (hb : b.isNaN = false) : a.equal b = b.equal a := by
  rw [Bool.eq_iff_iff]
  by_cases hn : a.isNumeric = false ∨ b.isNumeric = false
  · rw [equal_iff_eq hn, equal_iff_eq hn.symm, eq_comm]
  · simp only [not_or, Bool.not_eq_false] at hn
    obtain ⟨x, hx⟩ := exists_hasDouble hn.1 ha
    obtain ⟨y, hy⟩ := exists_hasDouble hn.2 hb
    rw [equal_iff hx hy, equal_iff hy hx, eq_comm]
    exact and_congr_right fun _ => not_congr ⟨Collide.symm, Collide.symm⟩

lemma isNumeric_of_int? {i : ℤ} (h : a.int? = some i) : a.isNumeric = true := by
  cases a <;> simp_all [int?, isNumeric]

lemma exists_int? (hn : a.isNumeric = true) (h : ¬ ∃ x, a = .float x) : ∃ i, a.int? = some i := by
  cases a <;> simp_all [int?, isNumeric]

/-- Only a double can stand between two values that collide: an integer in the middle is one of
them. -/
lemma equal_trans (ha : a.isNaN = false) (hb : b.isNaN = false) (hc : c.isNaN = false)
    (hab : a.equal b = true) (hbc : b.equal c = true)
    (h : ¬ ((∃ x, b = .float x) ∧ a.Collide c)) : a.equal c = true := by
  cases hn : b.isNumeric with
  | false =>
    rw [(equal_iff_eq (.inr hn)).mp hab]
    exact hbc
  | true =>
    obtain ⟨x, hx⟩ := exists_hasDouble ((isNumeric_of_equal hab).trans hn) ha
    obtain ⟨y, hy⟩ := exists_hasDouble hn hb
    obtain ⟨z, hz⟩ := exists_hasDouble ((isNumeric_of_equal hbc).symm.trans hn) hc
    have hxy := ((equal_iff hx hy).mp hab).1
    have hyz := ((equal_iff hy hz).mp hbc).1
    refine (equal_iff hx hz).mpr ⟨hxy.trans hyz, fun hac => h ⟨?_, hac⟩⟩
    by_contra hfloat
    obtain ⟨i, k, hi, hk, hne, -⟩ := hac
    obtain ⟨j, hj⟩ := exists_int? hn hfloat
    rw [equal_of_int? hi hj, beq_iff_eq] at hab
    rw [equal_of_int? hj hk, beq_iff_eq] at hbc
    exact hne (hab.trans hbc)

/-- A double equal to one of two values that collide is equal to the other, and the two are
unequal. -/
lemma equal_of_collide (ha : a.isNaN = false) (hx : x.isNaN = false) (hc : c.isNaN = false)
    (hab : a.equal (.float x) = true) (h : a.Collide c) :
    (Value.float x).equal c = true ∧ a.equal c = false := by
  obtain ⟨i, k, hi, hk, -⟩ := id h
  obtain ⟨y, hy⟩ := exists_hasDouble (isNumeric_of_int? hi) ha
  obtain ⟨z, hz⟩ := exists_hasDouble (isNumeric_of_int? hk) hc
  have hfloat : (Value.float x).HasDouble x := ⟨rfl, hx⟩
  have hkey := ((equal_iff hy hfloat).mp hab).1
  constructor
  · refine (equal_iff hfloat hz).mpr ⟨?_, not_collide_of_not_int? (.inl rfl)⟩
    rw [← hkey, key_eq_of_collide hy hz h]
  · exact Bool.eq_false_iff.mpr fun he => ((equal_iff hy hz).mp he).2 h

/-- Equality is reflexive and symmetric, and a chain `a`, `b`, `c` of equal values breaks exactly
when `b` is a double that two different integers `a` and `c` are nearest to. -/
theorem equal_equivalence (ha : a.isNaN = false) (hb : b.isNaN = false) (hc : c.isNaN = false) :
    a.equal a = true ∧ a.equal b = b.equal a ∧
      ((a.equal b = true → b.equal c = true → a.equal c = true) ↔
        ¬ ((∃ x, b = .float x) ∧ a.Collide c ∧ a.equal b = true)) := by
  refine ⟨equal_self ha, equal_comm ha hb, ?_, ?_⟩
  · rintro htrans ⟨⟨x, rfl⟩, hac, hab⟩
    obtain ⟨hbc, hne⟩ := equal_of_collide ha hb hc hab hac
    rw [htrans hab hbc] at hne
    cases hne
  · intro h hab hbc
    exact equal_trans ha hb hc hab hbc fun ⟨hfloat, hac⟩ => h ⟨hfloat, hac, hab⟩

theorem equal_equivalence_int_float_long :
    (Value.int 5).equal (.float (.ofNat 5)) = (Value.float (.ofNat 5)).equal (.int 5) ∧
      (Value.int 5).equal (.long 5) = true := by
  have h := equal_equivalence (a := .int 5) (b := .float (.ofNat 5)) (c := .long 5)
    rfl (by decide) rfl
  refine ⟨h.2.1, h.2.2.mpr ?_ (by decide) (by decide)⟩
  rintro ⟨-, ⟨i, j, hi, hj, hne, -⟩, -⟩
  exact hne (Option.some.inj (hi.symm.trans hj))

/-- Two integers that differ are both equal to their nearest double. -/
theorem not_equal_trans :
    (Value.long 9007199254740992).equal (.float (.ofNat 9007199254740992)) = true ∧
      (Value.float (.ofNat 9007199254740992)).equal (.long 9007199254740993) = true ∧
      (Value.long 9007199254740992).equal (.long 9007199254740993) = false := by
  decide

end StepConditions.Value
