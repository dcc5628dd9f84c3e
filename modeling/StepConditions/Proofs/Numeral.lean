import Mathlib
import StepConditions.Proofs.Decimal

/-!
# Texts that are read as numbers

The grammar of integers and of decimal numbers in current values. The readers accept exactly the
texts of the grammar, and make of them the integer or the nearest double.
-/
namespace StepConditions.Numeric
variable {cs rest whole fraction body : List Char} {c : Char} {i e : ℤ} {n : ℕ} {negative : Bool}

/-- A sign or none, and digits. -/
inductive IntegerText : List Char → ℤ → Prop
  | mk {negative : Bool} {sign digits : List Char} (hs : sign ∈ signTexts negative)
      (hne : digits ≠ []) (hd : ∀ c ∈ digits, c.isDigit = true) :
      IntegerText (sign ++ digits) (signed negative (digitsValue 0 digits))

/-- The letter of an exponent and an integer, or nothing. -/
inductive ExponentText : List Char → ℤ → Prop
  | absent : ExponentText [] 0
  | present {mark : Char} {cs : List Char} {e : ℤ} (hm : mark = 'e' ∨ mark = 'E')
      (he : IntegerText cs e) : ExponentText (mark :: cs) e

/-- Digits with at most one point before, among or behind them. -/
inductive PointText : List Char → List Char → List Char → Prop
  | plain (whole : List Char) : PointText whole [] whole
  | point (whole fraction : List Char) : PointText whole fraction (whole ++ '.' :: fraction)

/-- A decimal number: its sign, its digits read as one number and the power of ten of the last of
them. -/
inductive NumeralText : List Char → Bool → ℕ → ℤ → Prop
  | mk {negative : Bool} {sign whole fraction body power : List Char} {e : ℤ}
      (hs : sign ∈ signTexts negative) (hb : PointText whole fraction body)
      (hne : whole ++ fraction ≠ []) (hw : ∀ c ∈ whole, c.isDigit = true)
      (hf : ∀ c ∈ fraction, c.isDigit = true) (hp : ExponentText power e) :
      NumeralText (sign ++ (body ++ power)) negative (digitsValue 0 (whole ++ fraction))
        (e - fraction.length)

/-- The text of a decimal number whose nearest double is finite. -/
def FiniteText (cs : List Char) : Prop :=
  ∃ negative n e, NumeralText cs negative n e ∧
    nearestMagnitude (decimalValue n e) < infiniteMagnitude

theorem readInt?_eq_some_iff : readInt? cs = some i ↔ IntegerText cs i := by
  constructor
  · intro h
    obtain ⟨sign, hsign, hcs⟩ := exists_signText cs
    simp only [readInt?] at h
    split at h
    next => cases h
    next hds =>
      simp only [Bool.or_eq_true, List.isEmpty_iff, Bool.not_eq_true', not_or,
        Bool.not_eq_false] at hds
      cases h
      have htext := IntegerText.mk hsign hds.1 (List.all_eq_true.mp hds.2)
      rwa [hcs] at htext
  · rintro ⟨hs, hne, hd⟩
    exact readInt?_append hs hne hd

theorem readExponent?_eq_some_iff : readExponent? cs = some e ↔ ExponentText cs e := by
  constructor
  · intro h
    unfold readExponent? at h
    split at h
    next =>
      cases h
      exact .absent
    next c cs =>
      split at h
      next hc => exact .present (by simpa using hc) (readInt?_eq_some_iff.mp h)
      next => cases h
  · intro h
    cases h with
    | absent => rfl
    | present hm he => rcases hm with rfl | rfl <;> exact readInt?_eq_some_iff.mpr he

/-- Neither a digit nor the point follows. -/
lemma ExponentText.head (h : ExponentText cs e) : ∀ c ∈ cs.head?, c = 'e' ∨ c = 'E' := by
  cases h with
  | absent => simp
  | present hm _ =>
    intro c hc
    obtain rfl := Option.some.inj hc
    exact hm

lemma ExponentText.noDigit (h : ExponentText cs e) : NoDigit cs := by
  intro c hc
  rcases h.head c hc with rfl | rfl <;> rfl

/-- What stands behind the sign of a number begins with a digit or the point. -/
lemma PointText.head (h : PointText whole fraction body) (hne : whole ++ fraction ≠ [])
    (hw : ∀ c ∈ whole, c.isDigit = true) (power : List Char) :
    ∀ c ∈ (body ++ power).head?, c ≠ '-' ∧ c ≠ '+' := by
  intro c hc
  cases h with
  | plain =>
    obtain ⟨d, ds, rfl⟩ := List.exists_cons_of_ne_nil (by simpa using hne)
    obtain rfl := Option.some.inj hc
    exact not_sign_of_isDigit (hw d List.mem_cons_self)
  | point =>
    cases whole with
    | nil =>
      obtain rfl := Option.some.inj hc
      decide
    | cons d ds =>
      obtain rfl := Option.some.inj hc
      exact not_sign_of_isDigit (hw d List.mem_cons_self)

lemma numeralText_of_readDecimal? (h : readDecimal? cs = some (negative, n, e)) :
    NumeralText cs negative n e := by
  obtain ⟨sign, hsign, hcs⟩ := exists_signText cs
  have hsplit := spanDigits_fst_append (spanSign cs).2
  have hw : ∀ c ∈ (spanDigits (spanSign cs).2).1, c.isDigit = true := isDigit_of_mem_spanDigits
  simp only [readDecimal?] at h
  generalize spanDigits (spanSign cs).2 = w at h hsplit hw
  obtain ⟨whole, after⟩ := w
  dsimp only at h hsplit hw
  split at h
  next after ds =>
    have hds := spanDigits_fst_append ds
    have hf : ∀ c ∈ (spanDigits ds).1, c.isDigit = true := isDigit_of_mem_spanDigits
    generalize spanDigits ds = f at h hds hf
    obtain ⟨fraction, power⟩ := f
    dsimp only at h hds hf
    split at h
    next => cases h
    next hne =>
      obtain ⟨e', he, h⟩ := Option.map_eq_some_iff.mp h
      cases h
      have htext := NumeralText.mk hsign (.point whole fraction) (by simpa using hne) hw hf
        (readExponent?_eq_some_iff.mp he)
      have hbody : (whole ++ '.' :: fraction) ++ power = (spanSign cs).2 := by
        rw [← hsplit, ← hds]
        simp
      rwa [hbody, hcs] at htext
  next after _ =>
    split at h
    next => cases h
    next hne =>
      obtain ⟨e', he, h⟩ := Option.map_eq_some_iff.mp h
      cases h
      have htext := NumeralText.mk hsign (.plain whole) (by simpa using hne) hw (by simp)
        (readExponent?_eq_some_iff.mp he)
      rwa [hsplit, hcs] at htext

lemma NumeralText.readDecimal?_eq (h : NumeralText cs negative n e) :
    readDecimal? cs = some (negative, n, e) := by
  obtain @⟨negative, sign, whole, fraction, body, power, e, hs, hb, hne, hw, hf, hp⟩ := h
  have hspan := spanSign_signText hs (hb.head hne hw power)
  have hread := readExponent?_eq_some_iff.mpr hp
  have hnone : ¬ (whole = [] ∧ fraction = []) := by simpa using hne
  simp only [readDecimal?, hspan]
  cases hb with
  | plain =>
    rw [spanDigits_append hw hp.noDigit]
    cases hp with
    | absent => simpa [hread] using hnone
    | present hm he => rcases hm with rfl | rfl <;> simpa [hread] using hnone
  | point =>
    have hpoint : NoDigit ('.' :: (fraction ++ power)) := by simp [NoDigit]
    rw [List.append_assoc, List.cons_append, spanDigits_append hw hpoint]
    simp [spanDigits_append hf hp.noDigit, hread, hnone]

theorem readDecimal?_eq_some_iff :
    readDecimal? cs = some (negative, n, e) ↔ NumeralText cs negative n e :=
  ⟨numeralText_of_readDecimal?, NumeralText.readDecimal?_eq⟩

/-- Exactly the texts of decimal numbers with a finite nearest double are read; words such as `NaN`
and exponents that overflow are not. -/
theorem readFinite?_eq_none_iff : readFinite? cs = none ↔ ¬ FiniteText cs := by
  have hmagnitude : ∀ negative n e, (Binary64.ofDecimal negative n e).isFinite = true ↔
      nearestMagnitude (decimalValue n e) < infiniteMagnitude := by
    intro negative n e
    rw [← decimalMagnitude_eq]
    exact decide_eq_true_iff
  rw [readFinite?]
  split
  next negative n e hread =>
    have htext := readDecimal?_eq_some_iff.mp hread
    constructor
    · rintro h ⟨negative', n', e', htext', hfinite⟩
      have hsame := hread.symm.trans (readDecimal?_eq_some_iff.mpr htext')
      cases hsame
      simp [(hmagnitude negative n e).mpr hfinite] at h
    · intro h
      have hinfinite : ¬ (Binary64.ofDecimal negative n e).isFinite = true :=
        fun hx => h ⟨negative, n, e, htext, (hmagnitude negative n e).mp hx⟩
      exact if_neg hinfinite
  next hread =>
    refine iff_of_true rfl ?_
    rintro ⟨negative, n, e, htext, -⟩
    rw [readDecimal?_eq_some_iff.mpr htext] at hread
    cases hread

example : ¬ FiniteText "NaN".toList ∧ ¬ FiniteText "-inf".toList ∧ ¬ FiniteText "1e400".toList := by
  simp only [← readFinite?_eq_none_iff]
  decide

end StepConditions.Numeric
