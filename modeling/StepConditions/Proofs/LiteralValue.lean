import Mathlib
import StepConditions.Proofs.Approximation
import StepConditions.Proofs.SameValue

/-!
# Literals in a condition and in a current value

A current value that is text is read with one exact rounding, the literals of a document are not.
A condition that expects a literal is therefore met by the text of that literal exactly if reading
the document gave the nearest number, as it does for integers and for short literals.
-/
namespace StepConditions
open Numeric Json

namespace Json
variable {l : Literal} {rest : List Char} {s : String} {i : Whole} {x : Finite}

/-- The value of a literal. -/
def Literal.value (l : Literal) : ℚ :=
  if l.negative then -l.decimal else l.decimal

/-- The number is the integer that the literal stands for, or the double nearest to its value. -/
def Number.Nearest (l : Literal) : Number → Prop
  | .whole i => (i.val : ℚ) = l.value
  | .float x => x.val.negative = l.negative ∧ x.val.magnitude = nearestMagnitude |l.value|

lemma Literal.abs_value (l : Literal) : |l.value| = l.decimal := by
  have hpos : 0 ≤ l.decimal :=
    mul_nonneg (Nat.cast_nonneg _) (zpow_nonneg (by norm_num) _)
  rw [value]
  split
  · rw [abs_neg, abs_of_nonneg hpos]
  · exact abs_of_nonneg hpos

lemma isSpace_of_isBlankChar {c : Char} (h : isBlankChar c = true) : Text.isSpace c = true := by
  simp only [isBlankChar, Bool.or_eq_true, beq_iff_eq] at h
  rcases h with ((rfl | rfl) | rfl) | rfl <;> rfl

/-- The blanks around a literal are white space, and nothing of the literal is. -/
lemma literalText_trimChars (hl : readLiteral? (skipBlank s.toList) = some (l, rest))
    (hrest : skipBlank rest = []) : LiteralText l (Text.trimChars s.toList) := by
  obtain ⟨text, htext, hs⟩ := exists_literalText hl
  have hbefore : ∀ c ∈ s.toList.takeWhile isBlankChar, Text.isSpace c = true :=
    fun c hc => isSpace_of_isBlankChar (List.mem_takeWhile_imp hc)
  have hafter : ∀ c ∈ rest, Text.isSpace c = true := fun c hc =>
    isSpace_of_isBlankChar (List.dropWhile_eq_nil_iff.mp hrest c hc)
  have hnone : ∀ c ∈ text, Text.isSpace c = false := by
    intro c hc
    rcases htext.isNumeral_of_mem hc with hn | rfl
    · exact Text.isSpace_of_isNumeral hn
    · rfl
  have hsplit : s.toList = s.toList.takeWhile isBlankChar ++ text ++ rest := by
    rw [List.append_assoc, ← hs]
    exact List.takeWhile_append_dropWhile.symm
  rw [hsplit, Text.trimChars_append_append hbefore hafter, Text.trimChars_of_forall hnone]
  exact htext

lemma Number.eq_of_ofInt? {j : ℤ} {n : Number} (h : Number.ofInt? j = some n) :
    ∃ i : Whole, n = .whole i ∧ i.val = j := by
  rw [Number.ofInt?] at h
  split at h
  · cases h
    exact ⟨_, rfl, rfl⟩
  · cases h

lemma Number.eq_of_ofBinary64? {y : Binary64} {n : Number} (h : Number.ofBinary64? y = some n) :
    ∃ x : Finite, n = .float x ∧ x.val = y := by
  rw [Number.ofBinary64?] at h
  split at h
  · cases h
    exact ⟨_, rfl, rfl⟩
  · cases h

namespace Literal

lemma number_of_isSome_eq_false (h : (l.fraction.isSome || l.exponent.isSome) = false) :
    l.number = digitsValue 0 l.whole ∧ l.tens = 0 := by
  obtain ⟨minus, whole, fraction, exponent⟩ := l
  cases fraction <;> cases exponent <;> simp_all [number, tens, written]

lemma of_whole?_eq_some {n : Number} (h : l.whole? = some n) :
    (l.fraction.isSome || l.exponent.isSome) = false ∧
      ∃ i : Whole, n = .whole i ∧ i.val = signed l.negative l.number := by
  rw [whole?] at h
  split at h
  next => cases h
  next hparts =>
    rw [Bool.not_eq_true] at hparts
    refine ⟨hparts, ?_⟩
    rw [(number_of_isSome_eq_false hparts).1]
    dsimp only at h
    split at h
    next => cases h
    next => exact Number.eq_of_ofInt? h

lemma of_number?_whole (h : l.number? = some (.whole i)) :
    (l.fraction.isSome || l.exponent.isSome) = false ∧ i.val = signed l.negative l.number := by
  rw [number?] at h
  split at h
  next n hn =>
    cases h
    obtain ⟨hparts, j, hj, hval⟩ := of_whole?_eq_some hn
    cases hj
    exact ⟨hparts, hval⟩
  next =>
    obtain ⟨y, -, hy⟩ := Option.bind_eq_some_iff.mp h
    obtain ⟨x, hx, -⟩ := Number.eq_of_ofBinary64? hy
    cases hx

lemma of_number?_float (h : l.number? = some (.float x)) :
    l.whole? = none ∧ l.float? = some x.val := by
  rw [number?] at h
  split at h
  next n hn =>
    obtain ⟨-, j, rfl, -⟩ := of_whole?_eq_some hn
    cases h
  next hwhole =>
    obtain ⟨y, hy, hx⟩ := Option.bind_eq_some_iff.mp h
    obtain ⟨_, he, rfl⟩ := Number.eq_of_ofBinary64? hx
    cases he
    exact ⟨hwhole, hy⟩

/-- An integer of 64 bits becomes a double only if it is written as minus zero. -/
lemma number_eq_zero (hwhole : l.whole? = none)
    (hparts : (l.fraction.isSome || l.exponent.isSome) = false)
    (hl : -0x8000000000000000 ≤ signed l.negative l.number)
    (hh : signed l.negative l.number < 0x8000000000000000) : l.number = 0 := by
  have hnumber := (number_of_isSome_eq_false hparts).1
  rw [hnumber] at hl hh ⊢
  simp only [whole?, hparts, Bool.false_eq_true, if_false] at hwhole
  split at hwhole
  next hzero => simpa using (Bool.and_eq_true_iff.mp hzero).2
  next =>
    rw [Number.ofInt?, dif_pos ⟨hl, by omega⟩] at hwhole
    cases hwhole

end Literal

/-- Integers and short literals are read as the nearest number. -/
lemma Number.nearest_of_short {n : Number} (h : l.number? = some n)
    (hn : (∃ i, n = .whole i) ∨ l.Short) : n.Nearest l := by
  cases n with
  | whole i =>
    obtain ⟨hparts, hval⟩ := Literal.of_number?_whole h
    have htens := (Literal.number_of_isSome_eq_false hparts).2
    simp only [Nearest, hval, Literal.value, Literal.decimal, decimalValue, htens, signed]
    split <;> simp
  | float x =>
    obtain ⟨-, hfloat⟩ := Literal.of_number?_float h
    have hshort : l.Short := by
      rcases hn with ⟨i, hi⟩ | hshort
      · cases hi
      · exact hshort
    refine ⟨Literal.negative_of_float? hfloat, ?_⟩
    rw [Literal.abs_value]
    exact Literal.magnitude_of_short hshort hfloat

end Json

namespace Coercion
variable {l : Literal} {s : String} {i : Whole} {x : Finite}

lemma readLong?_literal (h : LiteralText l (Text.trimChars s.toList)) :
    readLong? s = if l.fraction.isSome || l.exponent.isSome then none
      else (some (signed l.negative l.number)).filter fun i =>
        -0x8000000000000000 ≤ i && i < 0x8000000000000000 := by
  rw [readLong?, h.readInt?_eq]
  split
  next => rfl
  next hparts =>
    rw [Bool.not_eq_true] at hparts
    rw [(Literal.number_of_isSome_eq_false hparts).1]

lemma readNumber?_of_whole (h : LiteralText l (Text.trimChars s.toList))
    (hn : l.number? = some (.whole i)) (hi : i.val < 0x8000000000000000) :
    readNumber? s = some (.ofInt i.val) := by
  obtain ⟨hparts, hval⟩ := Literal.of_number?_whole hn
  have hlong : readLong? s = some i.val := by
    rw [readLong?_literal h, hparts, ← hval]
    simp [i.low, hi]
  rw [readNumber?, hlong]

lemma readNumber?_of_readLong? {j : ℤ} (h : LiteralText l (Text.trimChars s.toList))
    (hwhole : l.whole? = none) (hlong : readLong? s = some j) :
    readNumber? s = some (.int 0) ∧ l.number = 0 := by
  have hread := readLong?_literal h
  rw [hlong] at hread
  split at hread
  next => cases hread
  next hparts =>
    rw [Bool.not_eq_true] at hparts
    obtain ⟨hj, hrange⟩ := Option.filter_eq_some_iff.mp hread.symm
    obtain ⟨hl, hh⟩ : -0x8000000000000000 ≤ j ∧ j < 0x8000000000000000 := by simpa using hrange
    have hj := Option.some.inj hj
    have hzero := Literal.number_eq_zero hwhole hparts (hj ▸ hl) (hj ▸ hh)
    have hj0 : j = 0 := by
      rw [← hj, hzero, signed]
      split <;> rfl
    rw [readNumber?, hlong, hj0]
    exact ⟨rfl, hzero⟩

lemma readNumber?_of_readLong?_eq_none (h : LiteralText l (Text.trimChars s.toList))
    (hlong : readLong? s = none) :
    readNumber? s =
      if (Binary64.ofDecimal l.negative l.number l.tens).isFinite
      then some (.float (.ofDecimal l.negative l.number l.tens)) else none := by
  rw [readNumber?, hlong]
  simp only [readFinite?, h.readDecimal?_eq]
  split <;> rfl

/-- What is read from the text of a literal equals a double exactly if that is the nearest one. -/
lemma equal_float_iff (h : LiteralText l (Text.trimChars s.toList))
    (hn : l.number? = some (.float x)) :
    ((readNumber? s).getD (.text s)).equal (.float x.val) = true ↔
      x.val.magnitude = nearestMagnitude l.decimal := by
  obtain ⟨hwhole, hfloat⟩ := Literal.of_number?_float hn
  have hsign := Literal.negative_of_float? hfloat
  have hx := Binary64.isNaN_of_isFinite x.finite
  cases hlong : readLong? s with
  | some j =>
    obtain ⟨hread, hzero⟩ := readNumber?_of_readLong? h hwhole hlong
    have hdecimal : nearestMagnitude l.decimal = 0 := by
      simp [Literal.decimal, decimalValue, hzero, nearestMagnitude]
    have hkey : (Binary64.ofInt 0).key = 0 := rfl
    rw [hread, Option.getD_some, Value.equal_of_not_int? rfl rfl (.inr rfl),
      Binary64.sameValue_iff (Binary64.isNaN_ofInt _) hx, hdecimal]
    change (Binary64.ofInt 0).key = _ ↔ _
    rw [hkey, Binary64.key]
    split <;> omega
  | none =>
    have hnearest : (Binary64.ofDecimal l.negative l.number l.tens).magnitude =
        nearestMagnitude l.decimal := decimalMagnitude_eq _ _
    rw [readNumber?_of_readLong?_eq_none h hlong]
    split
    next hfinite =>
      rw [Option.getD_some, Value.equal_of_not_int? rfl rfl (.inr rfl),
        Binary64.sameValue_iff (Binary64.isNaN_of_isFinite hfinite) hx,
        Binary64.key_eq_key_iff hsign.symm, hnearest, eq_comm]
    next hinfinite =>
      -- the text stays one, and no double of a document is infinite
      have hne : x.val.magnitude ≠ nearestMagnitude l.decimal := by
        rw [← hnearest]
        intro he
        have hfinite := x.finite
        simp only [Binary64.isFinite, he] at hfinite
        exact hinfinite hfinite
      exact iff_of_false Bool.false_ne_true hne

end Coercion

section
variable {resolve : Resolver} {step field text : String} {n : Number}

/-- A condition that expects the number of a literal, against the text of that literal, passes
exactly if the number is the nearest one, as it is for integers and for short literals. -/
theorem evaluateDocument_literal (hstep : Text.isBlank step = false)
    (hfield : Text.isBlank field = false) (hn : parse? text = some (.number n))
    (hnumeric : (Value.ofNumber n).isNumeric = true)
    (hr : resolve step field = .ok (some text)) :
    ∃ l rest, readLiteral? (skipBlank text.toList) = some (l, rest) ∧
      ∃ passed, evaluateDocument .matchExpected
          (some (singleCondition step field "==" (.number n))) (some resolve) =
            ⟨passed, [(step, field)]⟩ ∧
        (passed = true ↔ n.Nearest l) ∧ ((∃ i, n = .whole i) ∨ l.Short → n.Nearest l) := by
  obtain ⟨l, rest, hl, hrest, hnumber⟩ := parse?_eq_number_iff.mp hn
  have htext := literalText_trimChars hl hrest
  refine ⟨l, rest, hl, _, evaluateDocument_singleCondition_of_resolve hstep hfield (by decide) hr _,
    ?_, Number.nearest_of_short hnumber⟩
  rw [satisfied_of_not_isOrdering (show Operator.find? "==" = some .equal from rfl) rfl]
  cases n with
  | whole i =>
    have hi : i.val < 0x8000000000000000 := by
      by_contra hi
      simp [Value.ofNumber, hi, Value.isNumeric] at hnumeric
    have hvalue : Value.ofJson (.number (.whole i)) = .ofInt i.val := if_pos hi
    have hnearest := Number.nearest_of_short hnumber (.inl ⟨i, rfl⟩)
    rw [hvalue, Coercion.apply_matchExpected_ofInt, Coercion.readNumber?_of_whole htext hnumber hi,
      Option.getD_some]
    simp only [Operator.holds, ← hvalue, Value.equal_self (Coercion.isNaN_ofJson _), hnearest]
  | float x =>
    obtain ⟨-, hfloat⟩ := Literal.of_number?_float hnumber
    have hsign := Literal.negative_of_float? hfloat
    rw [Number.Nearest, Literal.abs_value, ← Coercion.equal_float_iff htext hnumber]
    simp only [hsign, true_and]
    rfl

theorem evaluateDocument_literal_tenth :
    let n : Number := .float ⟨⟨false, 0x3FB999999999999A, by decide⟩, by decide⟩
    let resolve : Resolver := fun _ _ => .ok (some " 0.1")
    parse? " 0.1" = some (.number n) ∧
      evaluateDocument .matchExpected (some (singleCondition "quote" "rate" "==" (.number n)))
        (some resolve) = ⟨true, [("quote", "rate")]⟩ := by
  intro n resolve
  have hread : readLiteral? (skipBlank " 0.1".toList) =
      some (⟨false, ['0'], some ['1'], none⟩, []) := by cbv
  have hn : parse? " 0.1" = some (.number n) :=
    parse?_eq_number_iff.mpr ⟨_, _, hread, rfl, by decide +kernel⟩
  obtain ⟨l, rest, hl, passed, heval, hiff, hshort⟩ :=
    evaluateDocument_literal (show Text.isBlank "quote" = false by decide)
      (show Text.isBlank "rate" = false by decide) hn rfl
      (show resolve "quote" "rate" = .ok (some " 0.1") from rfl)
  rw [hread] at hl
  cases hl
  have hpassed : passed = true := hiff.mpr (hshort (.inr ⟨by decide, by decide, by decide⟩))
  exact ⟨hn, hpassed ▸ heval⟩

/-- Dividing by the double nearest to `10 ^ 23` leaves the double above the one nearest to
`10 ^ -23`. -/
theorem evaluateDocument_literal_next_double :
    let n : Number := .float ⟨⟨false, 0x3B282DB34012B252, by decide⟩, by decide⟩
    let resolve : Resolver := fun _ _ => .ok (some "1e-23")
    parse? "1e-23" = some (.number n) ∧ (Value.ofNumber n).isNumeric = true ∧
      evaluateDocument .matchExpected (some (singleCondition "quote" "rate" "==" (.number n)))
        (some resolve) = ⟨false, [("quote", "rate")]⟩ := by
  intro n resolve
  have hread : readLiteral? (skipBlank "1e-23".toList) =
      some (⟨false, ['1'], none, some (true, ['2', '3'])⟩, []) := by cbv
  have hnumber : Literal.number? ⟨false, ['1'], none, some (true, ['2', '3'])⟩ = some n := by
    decide +kernel
  have hn : parse? "1e-23" = some (.number n) :=
    parse?_eq_number_iff.mpr ⟨_, _, hread, rfl, hnumber⟩
  have hequal := Coercion.equal_float_iff (literalText_trimChars hread rfl) hnumber
  have hnearest : nearestMagnitude
      (Literal.decimal ⟨false, ['1'], none, some (true, ['2', '3'])⟩) = 0x3B282DB34012B251 := by
    rw [Literal.decimal, ← decimalMagnitude_eq]
    decide +kernel
  refine ⟨hn, rfl, ?_⟩
  rw [evaluateDocument_singleCondition_of_resolve (by decide) (by decide) (by decide)
    (show resolve "quote" "rate" = .ok (some "1e-23") from rfl),
    satisfied_of_not_isOrdering (show Operator.find? "==" = some .equal from rfl) rfl]
  have hunequal : ((Coercion.readNumber? "1e-23").getD (.text "1e-23")).equal (.ofNumber n) = false := by
    rw [Bool.eq_false_iff, ne_eq, Value.ofNumber, hequal, hnearest]
    decide
  exact congrArg (Outcome.mk · _) hunequal

end

end StepConditions
