import Mathlib
import StepConditions.Numeric.Digits

/-!
# Digits read back

The decimal digits of a number stand for it, and no number but zero begins with a zero.
-/
namespace StepConditions.Numeric
variable {n : ℕ} {c : Char} {cs ds rest : List Char} {negative : Bool}

lemma digitsValue_eq_ofDigitChars (acc : ℕ) (cs : List Char) :
    digitsValue acc cs = Nat.ofDigitChars 10 cs acc :=
  Nat.ofDigitChars_eq_foldl.symm

lemma digitsValue_digits (n : ℕ) : digitsValue 0 (digits n) = n := by
  rw [digitsValue_eq_ofDigitChars]
  exact Nat.ofDigitChars_ten_toDigits

lemma digitsValue_append (a b : List Char) :
    digitsValue 0 (a ++ b) = digitsValue (digitsValue 0 a) b := by
  simp [digitsValue, List.foldl_append]

lemma le_digitsValue (n : ℕ) (ds : List Char) : n ≤ digitsValue n ds := by
  induction ds generalizing n with
  | nil => exact le_rfl
  | cons d ds ih => exact le_trans (by omega) (ih (10 * n + digitValue d))

lemma isDigit_of_mem_digits (h : c ∈ digits n) : c.isDigit = true :=
  Nat.isDigit_of_mem_toDigits (by decide) (by decide) h

lemma digits_ne_nil (n : ℕ) : digits n ≠ [] :=
  Nat.toDigits_ne_nil

lemma head?_digits_ne_zero (h : 0 < n) : (digits n).head? ≠ some '0' := by
  induction n using Nat.strong_induction_on with
  | h n ih =>
    rcases Nat.lt_or_ge n 10 with hn | hn
    · rw [digits, Nat.toDigits_of_lt_base hn]
      simpa using h.ne'
    · rw [digits, Nat.toDigits_of_base_le (by decide) hn,
        List.head?_append_of_ne_nil _ Nat.toDigits_ne_nil]
      exact ih (n / 10) (by omega) (by omega)

/-- Nothing but the digit zero begins with a zero. -/
lemma leading_zero (h : digits n = c :: ds) : c ≠ '0' ∨ ds = [] := by
  rcases Nat.eq_zero_or_pos n with rfl | hn
  · exact .inr (List.cons.inj h).2.symm
  · refine .inl fun hc => head?_digits_ne_zero hn ?_
    rw [h, hc, List.head?_cons]

/-- The text does not go on with a digit. -/
def NoDigit (rest : List Char) : Prop :=
  ∀ c ∈ rest.head?, c.isDigit = false

lemma spanDigits_append (hd : ∀ c ∈ ds, c.isDigit = true) (hr : NoDigit rest) :
    spanDigits (ds ++ rest) = (ds, rest) := by
  have hrest : rest.takeWhile Char.isDigit = [] ∧ rest.dropWhile Char.isDigit = rest := by
    cases rest with
    | nil => simp
    | cons c rest => simp [hr c rfl]
  simp only [spanDigits, List.takeWhile_append_of_pos hd, List.dropWhile_append_of_pos hd,
    hrest.1, hrest.2, List.append_nil]

lemma spanDigits_fst_append (cs : List Char) : (spanDigits cs).1 ++ (spanDigits cs).2 = cs :=
  List.takeWhile_append_dropWhile

lemma isDigit_of_mem_spanDigits : ∀ c ∈ (spanDigits cs).1, c.isDigit = true :=
  fun _ => List.mem_takeWhile_imp

lemma not_sign_of_isDigit (hc : c.isDigit = true) : c ≠ '-' ∧ c ≠ '+' := by
  constructor <;> (rintro rfl; cases hc)

/-- The ways to write a sign. -/
def signTexts : Bool → List (List Char)
  | true => [['-']]
  | false => [[], ['+']]

lemma minus_mem_signTexts (negative : Bool) :
    (if negative then ['-'] else []) ∈ signTexts negative := by
  cases negative <;> simp [signTexts]

lemma exists_signText (cs : List Char) :
    ∃ sign ∈ signTexts (spanSign cs).1, sign ++ (spanSign cs).2 = cs := by
  unfold spanSign
  split
  · exact ⟨['-'], by simp [signTexts]⟩
  · exact ⟨['+'], by simp [signTexts]⟩
  · exact ⟨[], by simp [signTexts]⟩

lemma spanSign_signText {sign : List Char} (h : sign ∈ signTexts negative)
    (hr : ∀ c ∈ rest.head?, c ≠ '-' ∧ c ≠ '+') : spanSign (sign ++ rest) = (negative, rest) := by
  cases negative with
  | true =>
    obtain rfl : sign = ['-'] := by simpa [signTexts] using h
    rfl
  | false =>
    obtain rfl | rfl : sign = [] ∨ sign = ['+'] := by simpa [signTexts] using h
    · cases rest with
      | nil => rfl
      | cons c cs =>
        have hc := hr c rfl
        simp [spanSign, hc.1, hc.2]
    · rfl

lemma spanSign_of_isDigit (hc : c.isDigit = true) : spanSign (c :: rest) = (false, c :: rest) := by
  have hsign := not_sign_of_isDigit hc
  simp [spanSign, hsign.1, hsign.2]

lemma spanSign_append {sign : List Char} (h : sign ∈ signTexts negative) (hne : ds ≠ [])
    (hd : ∀ c ∈ ds, c.isDigit = true) (rest : List Char) :
    spanSign (sign ++ (ds ++ rest)) = (negative, ds ++ rest) := by
  obtain ⟨c, ds, rfl⟩ := List.exists_cons_of_ne_nil hne
  apply spanSign_signText h
  intro d hc
  obtain rfl := Option.some.inj hc
  exact not_sign_of_isDigit (hd c List.mem_cons_self)

lemma readInt?_append {sign : List Char} (h : sign ∈ signTexts negative) (hne : ds ≠ [])
    (hd : ∀ c ∈ ds, c.isDigit = true) :
    readInt? (sign ++ ds) = some (signed negative (digitsValue 0 ds)) := by
  have hspan := spanSign_append h hne hd []
  rw [List.append_nil] at hspan
  have hall : ds.all Char.isDigit = true := List.all_eq_true.mpr hd
  simp [readInt?, hspan, hne, hall]

lemma exists_digits_eq_cons (n : ℕ) : ∃ c ds, digits n = c :: ds ∧ c.isDigit = true := by
  obtain ⟨c, ds, h⟩ := List.exists_cons_of_ne_nil (digits_ne_nil n)
  exact ⟨c, ds, h, isDigit_of_mem_digits (n := n) (by simp [h])⟩

lemma signed_natAbs (i : ℤ) : signed (decide (i < 0)) i.natAbs = i := by
  simp only [signed, decide_eq_true_eq]
  split <;> omega

lemma intDigits_eq (i : ℤ) :
    intDigits i = (if decide (i < 0) then ['-'] else []) ++ digits i.natAbs := by
  simp only [intDigits, decide_eq_true_eq]
  split <;> rfl

theorem readInt?_intDigits (i : ℤ) : readInt? (intDigits i) = some i := by
  rw [intDigits_eq, readInt?_append (minus_mem_signTexts _) (digits_ne_nil _)
    fun _ => isDigit_of_mem_digits, digitsValue_digits, signed_natAbs]

/-- A character that numbers are written with. -/
def isNumeral (c : Char) : Bool :=
  c.isDigit || c == '-' || c == '+' || c == '.' || c == 'e'

lemma isNumeral_of_isDigit (h : c.isDigit = true) : isNumeral c = true := by
  simp [isNumeral, h]

lemma isNumeral_of_mem_signText {sign : List Char} (h : sign ∈ signTexts negative)
    (hc : c ∈ sign) : isNumeral c = true := by
  cases negative with
  | true =>
    obtain rfl : sign = ['-'] := by simpa [signTexts] using h
    obtain rfl := List.mem_singleton.mp hc
    rfl
  | false =>
    obtain rfl | rfl : sign = [] ∨ sign = ['+'] := by simpa [signTexts] using h
    · cases hc
    · obtain rfl := List.mem_singleton.mp hc
      rfl

lemma isNumeral_of_mem_intDigits {i : ℤ} (h : c ∈ intDigits i) : isNumeral c = true := by
  rw [intDigits_eq] at h
  rcases List.mem_append.mp h with h | h
  · exact isNumeral_of_mem_signText (minus_mem_signTexts _) h
  · exact isNumeral_of_isDigit (isDigit_of_mem_digits h)

end StepConditions.Numeric
