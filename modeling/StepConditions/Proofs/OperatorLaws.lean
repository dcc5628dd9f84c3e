import Mathlib
import StepConditions.Proofs.Comparison

/-!
# Laws of the operators

Doubles are ordered by an integer rank that also places what is not a number, and values that are
no numbers by their texts. Both orders are total, so that the ordering operators mirror and negate
each other for all values but null. Across the two sorts only this much holds: a text may stand
between two numbers that are in the other order.
-/
namespace StepConditions

namespace Numeric.Binary64
variable {x y : Binary64}

/-- What is not a number has its place outside of all numbers, on the side of its sign. -/
def rank (x : Binary64) : ℤ :=
  if x.isNaN then x.totalKey else x.key

lemma order_of_isNaN (h : x.isNaN = true ∨ y.isNaN = true) :
    x.order y = compare x.totalKey y.totalKey := by
  have hnone : x.order? y = none := by
    rcases h with h | h <;> simp [order?, h]
  simp [order, hnone]

lemma compare_congr {i j k l : ℤ} (hlt : i < j ↔ k < l) (hgt : j < i ↔ l < k) :
    compare i j = compare k l := by
  rcases lt_trichotomy i j with h | h | h
  · rw [compare_lt_iff_lt.mpr h, compare_lt_iff_lt.mpr (hlt.mp h)]
  · have hkl : k = l := by
      have := mt hlt.mpr (by omega)
      have := mt hgt.mpr (by omega)
      omega
    rw [compare_eq_iff_eq.mpr h, compare_eq_iff_eq.mpr hkl]
  · rw [compare_gt_iff_gt.mpr h, compare_gt_iff_gt.mpr (hgt.mp h)]

lemma order_eq_compare_rank (x y : Binary64) : x.order y = compare x.rank y.rank := by
  by_cases h : x.isNaN = true ∨ y.isNaN = true
  · have hx : x.isNaN = false → x.magnitude ≤ infiniteMagnitude :=
      fun h => not_lt.mp (of_decide_eq_false h)
    have hy : y.isNaN = false → y.magnitude ≤ infiniteMagnitude :=
      fun h => not_lt.mp (of_decide_eq_false h)
    have hx' : x.isNaN = true → infiniteMagnitude < x.magnitude := of_decide_eq_true
    have hy' : y.isNaN = true → infiniteMagnitude < y.magnitude := of_decide_eq_true
    rw [order_of_isNaN h]
    -- a number beside a NaN may take either of its two keys: both are inside the infinite magnitude
    apply compare_congr <;> simp only [rank, totalKey, key] <;> grind
  · simp only [not_or, Bool.not_eq_true] at h
    rw [order_of_numbers h.1 h.2, rank, rank, h.1, h.2]
    rfl

instance : Std.TransCmp order :=
  have h : order = compareOn rank := funext₂ order_eq_compare_rank
  h ▸ inferInstance

end Numeric.Binary64

instance : Std.TransCmp Text.order :=
  inferInstanceAs (Std.TransCmp fun a b : String => compare a b)

namespace Value
open Numeric
variable {a b c : Value} {x y : Binary64}

lemma exists_float? (h : a.isNumeric = true) : ∃ x, a.float? = some x := by
  cases a with
  | int i => exact ⟨_, rfl⟩
  | long i => exact ⟨_, rfl⟩
  | float x => exact ⟨x, rfl⟩
  | _ => simp [isNumeric] at h

lemma orderPresent_of_float? (ha : a.float? = some x) (hb : b.float? = some y) :
    orderPresent a b = x.order y := by
  simp [orderPresent, ha, hb]

lemma boolOrder_eq (p q : Bool) : boolOrder p q = Text.order (boolText p) (boolText q) := by
  cases p <;> cases q <;> decide

/-- Truth values too are ordered as their words. -/
lemma orderPresent_of_not_isNumeric (h : a.isNumeric = false ∨ b.isNumeric = false) :
    orderPresent a b = Text.order a.asText b.asText := by
  cases a <;> cases b <;> simp_all [orderPresent, float?, isNumeric, asText, boolOrder_eq]

lemma orderPresent_self (a : Value) : orderPresent a a = .eq := by
  cases h : a.isNumeric with
  | true =>
    obtain ⟨x, hx⟩ := exists_float? h
    rw [orderPresent_of_float? hx hx]
    exact Std.ReflCmp.compare_self
  | false =>
    rw [orderPresent_of_not_isNumeric (.inl h)]
    exact Std.ReflCmp.compare_self

lemma orderPresent_swap (a b : Value) : orderPresent b a = (orderPresent a b).swap := by
  by_cases h : a.isNumeric = false ∨ b.isNumeric = false
  · rw [orderPresent_of_not_isNumeric h, orderPresent_of_not_isNumeric h.symm]
    exact Std.OrientedCmp.eq_swap
  · simp only [not_or, Bool.not_eq_false] at h
    obtain ⟨x, hx⟩ := exists_float? h.1
    obtain ⟨y, hy⟩ := exists_float? h.2
    rw [orderPresent_of_float? hx hy, orderPresent_of_float? hy hx]
    exact Std.OrientedCmp.eq_swap

/-- The order of the ends of a chain that does not descend is the first step that ascends. -/
lemma eq_then_of_isLE {α : Type} {cmp : α → α → Ordering} [Std.TransCmp cmp] {p q r : α}
    (hpq : (cmp p q).isLE = true) (hqr : (cmp q r).isLE = true) :
    cmp p r = (cmp p q).then (cmp q r) := by
  cases h₁ : cmp p q with
  | lt =>
    cases h₂ : cmp q r with
    | lt => exact Std.TransCmp.lt_trans h₁ h₂
    | eq => exact Std.TransCmp.lt_of_lt_of_eq h₁ h₂
    | gt => simp [h₂] at hqr
  | eq => exact Std.TransCmp.congr_left h₁
  | gt => simp [h₁] at hpq

lemma orderPresent_trans (hab : a.isNumeric = b.isNumeric) (hbc : b.isNumeric = c.isNumeric)
    (h₁ : (orderPresent a b).isLE = true) (h₂ : (orderPresent b c).isLE = true) :
    orderPresent a c = (orderPresent a b).then (orderPresent b c) := by
  cases hb : b.isNumeric with
  | true =>
    obtain ⟨x, hx⟩ := exists_float? (hab.trans hb)
    obtain ⟨y, hy⟩ := exists_float? hb
    obtain ⟨z, hz⟩ := exists_float? (hbc.symm.trans hb)
    rw [orderPresent_of_float? hx hy] at h₁ ⊢
    rw [orderPresent_of_float? hy hz] at h₂ ⊢
    rw [orderPresent_of_float? hx hz]
    exact eq_then_of_isLE h₁ h₂
  | false =>
    rw [orderPresent_of_not_isNumeric (.inr hb)] at h₁ ⊢
    rw [orderPresent_of_not_isNumeric (.inl hb)] at h₂ ⊢
    rw [orderPresent_of_not_isNumeric (.inl (hab.trans hb))]
    exact eq_then_of_isLE h₁ h₂

lemma order_of_present (ha : a.isNull = false) (hb : b.isNull = false) :
    a.order b = .ok (orderPresent a b) := by
  simp [order, ha, hb]

lemma ordered_of_present (ha : a.isNull = false) (hb : b.isNull = false)
    (test : Ordering → Bool) : Operator.ordered test a b = test (orderPresent a b) := by
  simp [Operator.ordered, order_of_present ha hb]

lemma ordered_of_isNull (h : a.isNull = true ∨ b.isNull = true) (test : Ordering → Bool) :
    Operator.ordered test a b = false := by
  cases ha : a.isNull with
  | true => simp [Operator.ordered, order, ha]
  | false =>
    have hb : b.isNull = true := h.resolve_left (by simp [ha])
    simp [Operator.ordered, order, ha, hb]

lemma equal_of_isNull (h : a.isNull = true ∨ b.isNull = true) :
    a.equal b = true ↔ a.isNull = true ∧ b.isNull = true := by
  cases a <;> cases b <;> simp_all [equal, isNull]

/-- Equal values have no order between them, unless they are not numbers. -/
lemma orderPresent_of_equal (ha : a.isNaN = false) (hb : b.isNaN = false)
    (h : a.equal b = true) : orderPresent a b = .eq := by
  by_cases hn : a.isNumeric = false ∨ b.isNumeric = false
  · rw [(equal_iff_eq hn).mp h]
    exact orderPresent_self b
  · simp only [not_or, Bool.not_eq_false] at hn
    obtain ⟨x, hx⟩ := exists_hasDouble hn.1 ha
    obtain ⟨y, hy⟩ := exists_hasDouble hn.2 hb
    rw [orderPresent_of_float? hx.1 hy.1, Binary64.order_of_numbers hx.2 hy.2, compare_eq_iff_eq]
    exact ((equal_iff hx hy).mp h).1

/-- For values that are not null the orderings mirror and negate each other, and equal ones are in
both weak orderings unless one is not a number; null is in no ordering and equal to itself alone.
Underneath is an order that is total within the numbers and within all other values. -/
theorem operator_laws (a b c : Value) :
    (a.isNull = false → b.isNull = false →
      Operator.evaluate a (some ">") b = Operator.evaluate b (some "<") a ∧
      Operator.evaluate a (some ">=") b = Operator.evaluate b (some "<=") a ∧
      Operator.evaluate a (some ">") b = !Operator.evaluate a (some "<=") b ∧
      Operator.evaluate a (some "<") b = !Operator.evaluate a (some ">=") b ∧
      (a.isNaN = false → b.isNaN = false → Operator.evaluate a (some "==") b = true →
        Operator.evaluate a (some ">=") b = true ∧ Operator.evaluate a (some "<=") b = true)) ∧
    (a.isNull = true ∨ b.isNull = true →
      (∀ token ∈ [">", "<", ">=", "<="], Operator.evaluate a (some token) b = false) ∧
      (Operator.evaluate a (some "==") b = true ↔ a.isNull = true ∧ b.isNull = true)) ∧
    Operator.evaluate a (some "!=") b = !Operator.evaluate a (some "==") b ∧
    (a.isNull = false → a.order a = .ok .eq) ∧
    (a.isNull = false → b.isNull = false →
      ∃ o, a.order b = .ok o ∧ b.order a = .ok o.swap) ∧
    (a.isNull = false → b.isNull = false → c.isNull = false →
      a.isNumeric = b.isNumeric → b.isNumeric = c.isNumeric →
      ∃ o₁ o₂, a.order b = .ok o₁ ∧ b.order c = .ok o₂ ∧
        (o₁.isLE = true → o₂.isLE = true → a.order c = .ok (o₁.then o₂))) := by
  have hequal (a b : Value) : Operator.evaluate a (some "==") b = a.equal b :=
    evaluate_of_find? (show Operator.find? "==" = some .equal from rfl) a b
  have hunequal (a b : Value) : Operator.evaluate a (some "!=") b = !a.equal b :=
    evaluate_of_find? (show Operator.find? "!=" = some .notEqual from rfl) a b
  have hgreater (a b : Value) : Operator.evaluate a (some ">") b = Operator.ordered (·.isGT) a b :=
    evaluate_of_find? (show Operator.find? ">" = some .greater from rfl) a b
  have hless (a b : Value) : Operator.evaluate a (some "<") b = Operator.ordered (·.isLT) a b :=
    evaluate_of_find? (show Operator.find? "<" = some .less from rfl) a b
  have hge (a b : Value) : Operator.evaluate a (some ">=") b = Operator.ordered (·.isGE) a b :=
    evaluate_of_find? (show Operator.find? ">=" = some .greaterOrEqual from rfl) a b
  have hle (a b : Value) : Operator.evaluate a (some "<=") b = Operator.ordered (·.isLE) a b :=
    evaluate_of_find? (show Operator.find? "<=" = some .lessOrEqual from rfl) a b
  simp only [List.forall_mem_cons, hequal, hunequal, hgreater, hless, hge, hle]
  refine ⟨fun ha hb => ?_, fun hnull => ?_, trivial, fun ha => ?_, fun ha hb => ?_,
    fun ha hb hc hab hbc => ?_⟩
  · simp only [ordered_of_present ha hb, ordered_of_present hb ha, orderPresent_swap a b]
    refine ⟨by simp, by simp, by simp, by simp, fun hna hnb h => ?_⟩
    rw [orderPresent_of_equal hna hnb h]
    exact ⟨rfl, rfl⟩
  · simp only [ordered_of_isNull hnull, equal_of_isNull hnull]
    simp
  · rw [order_of_present ha ha, orderPresent_self]
  · exact ⟨_, order_of_present ha hb, by rw [order_of_present hb ha, orderPresent_swap a b]⟩
  · refine ⟨_, _, order_of_present ha hb, order_of_present hb hc, fun h₁ h₂ => ?_⟩
    rw [order_of_present ha hc, orderPresent_trans hab hbc h₁ h₂]

/-- Negative zero beside zero, null beside it, and a chain of three kinds that are no numbers. -/
theorem operator_laws_zeros_null_texts :
    (Operator.evaluate (.float ⟨true, 0, by decide⟩) (some ">=") (.int 0) = true ∧
      Operator.evaluate (.float ⟨true, 0, by decide⟩) (some "<=") (.int 0) = true) ∧
    Operator.evaluate .null (some "<=") (.int 0) = false ∧
    (Value.raw "[1]").order (.bool true) = .ok .lt ∧
    (Value.bool true).order (.text "true") = .ok .eq ∧
    (Value.raw "[1]").order (.text "true") = .ok .lt := by
  have hzeros := (operator_laws (.float ⟨true, 0, by decide⟩) (.int 0) .null).1 rfl rfl
  have hnull := (operator_laws .null (.int 0) .null).2.1 (.inl rfl)
  obtain ⟨o₁, o₂, h₁, h₂, htrans⟩ :=
    (operator_laws (.raw "[1]") (.bool true) (.text "true")).2.2.2.2.2 rfl rfl rfl rfl rfl
  have hlt : (Value.raw "[1]").order (.bool true) = .ok .lt := rfl
  have heq : (Value.bool true).order (.text "true") = .ok .eq := rfl
  cases hlt.symm.trans h₁
  cases heq.symm.trans h₂
  exact ⟨hzeros.2.2.2.2 rfl rfl (by decide), hnull.1 "<=" (by decide), hlt, heq, htrans rfl rfl⟩

/-- A text between two numbers, below the smaller one and above the larger one. -/
example : orderPresent (.int 10) (.text "2") = .lt ∧ orderPresent (.text "2") (.int 5) = .lt ∧
    orderPresent (.int 10) (.int 5) = .gt := by
  decide

end Value

end StepConditions
