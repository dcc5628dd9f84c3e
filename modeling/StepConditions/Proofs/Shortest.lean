import Mathlib
import StepConditions.Numeric.Shortest
import StepConditions.Proofs.Binary64
import StepConditions.Proofs.Decimal

/-!
# Doubles read back from their text

The digits of a double are searched among those that are read as it, so the text of a finite double,
however it is laid out, is read as that double.
-/
namespace StepConditions.Numeric
variable {m n d q : ℕ} {e x : ℤ} {negative : Bool} {c : Char} {cs ds body : List Char}

lemma decimalMagnitude_of_gridDigits? (h : gridDigits? m n d e = some q) :
    decimalMagnitude q e = m := by
  simp only [gridDigits?] at h
  generalize gridBelow n d e = g at h
  split at h
  next hb =>
    rw [Bool.and_eq_true, Bool.and_eq_true] at hb
    cases h
    split
    · exact beq_iff_eq.mp hb.2.2
    · exact beq_iff_eq.mp hb.1
  next =>
    split at h
    next hlow =>
      cases h
      exact beq_iff_eq.mp hlow
    next =>
      split at h
      next hhigh =>
        rw [Bool.and_eq_true] at hhigh
        cases h
        exact beq_iff_eq.mp hhigh.2
      next => cases h

/-- Without a shorter form the digits are the exact value. -/
lemma decimalMagnitude_exact (hm : m ≤ infiniteMagnitude) :
    decimalMagnitude (shortestFrom m n d e 0).1 (shortestFrom m n d e 0).2 = m := by
  have hv : decimalValue (shortestFrom m n d e 0).1 (shortestFrom m n d e 0).2 =
      magnitudeValue m := by
    simp only [shortestFrom]
    split
    next h =>
      obtain ⟨k, hk⟩ := Int.eq_ofNat_of_zero_le h
      simp [decimalValue, magnitudeValue, hk, Nat.shiftLeft_eq]
    next h =>
      obtain ⟨k, hk⟩ := Int.eq_ofNat_of_zero_le (show 0 ≤ -placeExponent m by omega)
      have hk' : placeExponent m = -k := by omega
      simp only [decimalValue, magnitudeValue, hk', neg_neg, Int.toNat_natCast, zpow_neg,
        zpow_natCast]
      have : (10 : ℚ) ^ k = 2 ^ k * 5 ^ k := by
        rw [← mul_pow]
        norm_num
      rw [this, Nat.pow_eq]
      push_cast
      field_simp
  rw [decimalMagnitude_eq, hv, nearestMagnitude_magnitudeValue hm]

lemma decimalMagnitude_shortestFrom (hm : m ≤ infiniteMagnitude) (e : ℤ) (fuel : ℕ) :
    decimalMagnitude (shortestFrom m n d e fuel).1 (shortestFrom m n d e fuel).2 = m := by
  induction fuel generalizing e with
  | zero => exact decimalMagnitude_exact hm
  | succ fuel ih =>
    rw [shortestFrom]
    split
    next q hq => exact decimalMagnitude_of_gridDigits? hq
    next => exact ih (e - 1)

theorem decimalMagnitude_shortestDecimal (hm : m ≤ infiniteMagnitude) :
    decimalMagnitude (shortestDecimal m).1 (shortestDecimal m).2 = m :=
  decimalMagnitude_shortestFrom hm _ _

lemma digitsValue_replicate (acc k : ℕ) :
    digitsValue acc (List.replicate k '0') = 10 ^ k * acc := by
  rw [digitsValue_eq_ofDigitChars, Nat.ofDigitChars_replicate_zero]

lemma decimalValue_ten_pow_mul (k n : ℕ) (e : ℤ) :
    decimalValue (10 ^ k * n) e = decimalValue n (e + k) := by
  simp only [decimalValue]
  rw [zpow_add₀ (by norm_num), zpow_natCast]
  push_cast
  ring

lemma exists_trimZeros (ds : List Char) : ∃ k, ds = trimZeros ds ++ List.replicate k '0' := by
  refine ⟨(ds.reverse.takeWhile (· == '0')).length, ?_⟩
  have hzeros : ds.reverse.takeWhile (· == '0') =
      List.replicate (ds.reverse.takeWhile (· == '0')).length '0' := by
    refine List.eq_replicate_iff.mpr ⟨rfl, fun c hc => ?_⟩
    exact beq_iff_eq.mp (List.mem_takeWhile_imp (p := (· == '0')) hc)
  have h := congrArg List.reverse
    (List.takeWhile_append_dropWhile (p := (· == '0')) (l := ds.reverse))
  rw [List.reverse_append, List.reverse_reverse, hzeros, List.reverse_replicate] at h
  exact h.symm

/-- An exponent part, if there is one; the exponent shows its sign. -/
def powerText : Option ℤ → List Char
  | none => []
  | some x => 'e' :: (if x < 0 then '-' else '+') :: digits x.natAbs

lemma readExponent?_powerText (power : Option ℤ) :
    readExponent? (powerText power) = some (power.getD 0) := by
  cases power with
  | none => rfl
  | some x =>
    have hsign : [if x < 0 then '-' else '+'] ∈ signTexts (decide (x < 0)) := by
      by_cases h : x < 0 <;> simp [signTexts, h]
    have hread := readInt?_append hsign (digits_ne_nil x.natAbs) fun _ => isDigit_of_mem_digits
    rw [digitsValue_digits, signed_natAbs] at hread
    exact hread

lemma noDigit_powerText (power : Option ℤ) : NoDigit (powerText power) := by
  cases power <;> simp [powerText, NoDigit]

/-- Digits without a zero in front of others. -/
structure WholeText (whole : List Char) : Prop where
  ne_nil : whole ≠ []
  digits : ∀ c ∈ whole, c.isDigit = true
  lead : whole.head? ≠ some '0' ∨ whole.length = 1

lemma WholeText.singleton (hc : c.isDigit = true) : WholeText [c] :=
  ⟨List.cons_ne_nil c [], by simpa using hc, .inr rfl⟩

/-- A text of digits with a point among them, an exponent behind them or both, the number of the
digits and the power of ten that belongs to it. -/
inductive DecimalText : List Char → ℕ → ℤ → Prop
  | point {whole fraction : List Char} (power : Option ℤ) (hw : WholeText whole)
      (hne : fraction ≠ []) (hf : ∀ c ∈ fraction, c.isDigit = true) :
      DecimalText (whole ++ '.' :: (fraction ++ powerText power))
        (digitsValue 0 (whole ++ fraction)) (power.getD 0 - fraction.length)
  | exponent {whole : List Char} (x : ℤ) (hw : WholeText whole) :
      DecimalText (whole ++ powerText (some x)) (digitsValue 0 whole) x

namespace DecimalText

lemma readDecimal?_eq (h : DecimalText body n e) (hs : spanSign cs = (negative, body)) :
    readDecimal? cs = some (negative, n, e) := by
  cases h with
  | @point whole fraction power hw hne hf =>
    have hpoint : NoDigit ('.' :: (fraction ++ powerText power)) := by simp [NoDigit]
    simp [readDecimal?, hs, spanDigits_append hw.digits hpoint,
      spanDigits_append hf (noDigit_powerText power), hw.ne_nil, readExponent?_powerText]
  | @exponent whole _ hw =>
    have hpower := readExponent?_powerText (some e)
    have hspan := spanDigits_append hw.digits (noDigit_powerText (some e))
    rw [powerText] at hs hpower hspan
    simp [readDecimal?, hs, hspan, hw.ne_nil, hpower]

lemma exists_eq_cons (h : DecimalText body n e) : ∃ c cs, body = c :: cs ∧ c.isDigit = true := by
  cases h with
  | @point whole _ power hw _ _ =>
    obtain ⟨c, cs, rfl⟩ := List.exists_cons_of_ne_nil hw.ne_nil
    exact ⟨c, _, rfl, hw.digits c List.mem_cons_self⟩
  | @exponent whole _ hw =>
    obtain ⟨c, cs, rfl⟩ := List.exists_cons_of_ne_nil hw.ne_nil
    exact ⟨c, _, rfl, hw.digits c List.mem_cons_self⟩

/-- The point or the letter of the exponent is in the text, which is therefore no integer. -/
lemma readInt?_eq_none (h : DecimalText body n e) (hs : spanSign cs = (negative, body)) :
    readInt? cs = none := by
  have hall : body.all Char.isDigit = false := by
    cases h <;> simp [powerText]
  simp [readInt?, hs, hall]

lemma isNumeral_of_mem (h : DecimalText body n e) (hc : c ∈ body) : isNumeral c = true := by
  have hpower : ∀ power, c ∈ powerText power → isNumeral c = true := by
    rintro (_ | x) hc
    · cases hc
    · rcases List.mem_cons.mp hc with rfl | hc
      · rfl
      · rcases List.mem_cons.mp hc with rfl | hc
        · split <;> rfl
        · exact isNumeral_of_isDigit (isDigit_of_mem_digits hc)
  cases h with
  | point power hw hne hf =>
    simp only [List.mem_append, List.mem_cons] at hc
    rcases hc with hc | rfl | hc | hc
    · exact isNumeral_of_isDigit (hw.digits c hc)
    · rfl
    · exact isNumeral_of_isDigit (hf c hc)
    · exact hpower power hc
  | exponent _ hw =>
    rcases List.mem_append.mp hc with hc | hc
    · exact isNumeral_of_isDigit (hw.digits c hc)
    · exact hpower (some e) hc

end DecimalText

lemma isDigit_of_mem_zeros {k : ℕ} (h : c ∈ List.replicate k '0') : c.isDigit = true := by
  rw [List.eq_of_mem_replicate h]
  rfl

lemma layoutDigits_of_neg (hx : positionalFrom ≤ x) (hneg : x < 0) :
    layoutDigits ds x =
      ['0'] ++ '.' :: (List.replicate (-x - 1).toNat '0' ++ ds ++ powerText none) := by
  have hpos : positionalFrom ≤ x ∧ x < positionalBelow := ⟨hx, hneg.trans (by decide)⟩
  simp [layoutDigits, hpos, hneg, powerText]

lemma layoutDigits_of_length_le (hx : 0 ≤ x) (hlt : x < positionalBelow)
    (hl : ds.length ≤ x.toNat + 1) :
    layoutDigits ds x =
      ds ++ List.replicate (x.toNat + 1 - ds.length) '0' ++ '.' :: (['0'] ++ powerText none) := by
  have hpos : positionalFrom ≤ x ∧ x < positionalBelow := ⟨le_trans (by decide) hx, hlt⟩
  simp [layoutDigits, hpos, hx.not_gt, hl, powerText]

lemma layoutDigits_of_lt_length (hx : 0 ≤ x) (hlt : x < positionalBelow)
    (hl : x.toNat + 1 < ds.length) :
    layoutDigits ds x =
      ds.take (x.toNat + 1) ++ '.' :: (ds.drop (x.toNat + 1) ++ powerText none) := by
  have hpos : positionalFrom ≤ x ∧ x < positionalBelow := ⟨le_trans (by decide) hx, hlt⟩
  simp [layoutDigits, hpos, hx.not_gt, hl.le, hl, powerText]

lemma layoutDigits_scientific (hx : ¬ (positionalFrom ≤ x ∧ x < positionalBelow)) (d : Char) :
    layoutDigits (d :: ds) x =
      if ds = [] then [d] ++ powerText (some x) else [d] ++ '.' :: (ds ++ powerText (some x)) := by
  cases ds <;> simp [layoutDigits, hx, powerText]

/-- Whatever the layout is, the digits have the weight that they are laid out for. -/
lemma decimalText_layoutDigits (hne : ds ≠ []) (hd : ∀ c ∈ ds, c.isDigit = true)
    (hlead : ds.head? ≠ some '0') (x : ℤ) :
    ∃ n e, DecimalText (layoutDigits ds x) n e ∧
      decimalValue n e = decimalValue (digitsValue 0 ds) (x + 1 - ds.length) := by
  have hzero : ∀ c ∈ ['0'], c.isDigit = true := by simp
  by_cases hx : positionalFrom ≤ x ∧ x < positionalBelow
  · rcases lt_or_ge x 0 with hneg | hpos
    · have hf : ∀ c ∈ List.replicate (-x - 1).toNat '0' ++ ds, c.isDigit = true :=
        List.forall_mem_append.mpr ⟨fun _ => isDigit_of_mem_zeros, hd⟩
      rw [layoutDigits_of_neg hx.1 hneg]
      refine ⟨_, _, .point none (.singleton rfl) (by simp [hne]) hf, ?_⟩
      have hvalue : digitsValue 0 (['0'] ++ (List.replicate (-x - 1).toNat '0' ++ ds)) =
          digitsValue 0 ds := by
        rw [← List.append_assoc, digitsValue_append, digitsValue_append, digitsValue_replicate]
        rfl
      have hplace : (0 : ℤ) - (List.replicate (-x - 1).toNat '0' ++ ds).length =
          x + 1 - ds.length := by
        rw [List.length_append, List.length_replicate]
        omega
      rw [hvalue, Option.getD_none, hplace]
    · rcases Nat.lt_or_ge (x.toNat + 1) ds.length with hl | hl
      · rw [layoutDigits_of_lt_length hpos hx.2 hl]
        have hw : WholeText (ds.take (x.toNat + 1)) :=
          ⟨by simp [hne], fun c hc => hd c (List.mem_of_mem_take hc),
            .inl (by simpa [List.head?_take] using hlead)⟩
        have hf : ds.drop (x.toNat + 1) ≠ [] := by simpa using hl
        refine ⟨_, _, .point none hw hf (fun c hc => hd c (List.mem_of_mem_drop hc)), ?_⟩
        have hplace : (0 : ℤ) - (ds.drop (x.toNat + 1)).length = x + 1 - ds.length := by
          rw [List.length_drop]
          omega
        rw [List.take_append_drop, Option.getD_none, hplace]
      · rw [layoutDigits_of_length_le hpos hx.2 hl]
        have hw : WholeText (ds ++ List.replicate (x.toNat + 1 - ds.length) '0') :=
          ⟨by simp [hne], List.forall_mem_append.mpr ⟨hd, fun _ => isDigit_of_mem_zeros⟩,
            .inl (by rwa [List.head?_append_of_ne_nil _ hne])⟩
        refine ⟨_, _, .point none hw (List.cons_ne_nil _ _) hzero, ?_⟩
        have hvalue : digitsValue 0 (ds ++ List.replicate (x.toNat + 1 - ds.length) '0' ++ ['0']) =
            10 ^ (x.toNat + 1 - ds.length + 1) * digitsValue 0 ds := by
          rw [List.append_assoc, ← List.replicate_succ', digitsValue_append, digitsValue_replicate]
        rw [hvalue, decimalValue_ten_pow_mul]
        congr 1
        simp only [Option.getD_none, List.length_singleton]
        omega
  · obtain ⟨d, ds, rfl⟩ := List.exists_cons_of_ne_nil hne
    obtain ⟨hfirst, hrest⟩ := List.forall_mem_cons.mp hd
    rw [layoutDigits_scientific hx]
    split
    next hnil =>
      refine ⟨_, _, .exponent x (.singleton hfirst), ?_⟩
      simp [hnil]
    next hf =>
      refine ⟨_, _, .point (some x) (.singleton hfirst) hf hrest, ?_⟩
      simp

/-- The digits of a positive number, without the zeros at the end, stand for it at the power of ten
of the last one that is left. -/
lemma trimZeros_digits (hq : 0 < q) :
    trimZeros (digits q) ≠ [] ∧ (∀ c ∈ trimZeros (digits q), c.isDigit = true) ∧
      (trimZeros (digits q)).head? ≠ some '0' ∧
      ∀ e, decimalValue (digitsValue 0 (trimZeros (digits q)))
        (e + (digits q).length - (trimZeros (digits q)).length) = decimalValue q e := by
  obtain ⟨k, hk⟩ := exists_trimZeros (digits q)
  have hvalue : q = 10 ^ k * digitsValue 0 (trimZeros (digits q)) := by
    rw [← digitsValue_replicate, ← digitsValue_append, ← hk, digitsValue_digits]
  have hne : trimZeros (digits q) ≠ [] := fun hnil => by
    rw [hnil] at hvalue
    exact hq.ne' hvalue
  refine ⟨hne, fun c hc => ?_, fun hzero => ?_, fun e => ?_⟩
  · apply isDigit_of_mem_digits (n := q)
    rw [hk]
    exact List.mem_append_left _ hc
  · apply head?_digits_ne_zero hq
    rwa [hk, List.head?_append_of_ne_nil _ hne]
  · have hlength := congrArg List.length hk
    rw [List.length_append, List.length_replicate] at hlength
    have hplace : e + (digits q).length - (trimZeros (digits q)).length = e + k := by omega
    rw [hplace, ← decimalValue_ten_pow_mul, ← hvalue]

lemma decimalText_magnitudeText (hm : m < infiniteMagnitude) :
    ∃ n e, DecimalText (magnitudeText m) n e ∧ decimalMagnitude n e = m := by
  rcases Nat.eq_zero_or_pos m with rfl | hpos
  · have hzero : ∀ c ∈ ['0'], c.isDigit = true := by simp
    exact ⟨_, _, .point none (.singleton rfl) (List.cons_ne_nil _ _) hzero, by decide⟩
  · have hshort := decimalMagnitude_shortestDecimal hm.le
    simp only [magnitudeText, hpos.ne', if_false]
    generalize shortestDecimal m = shortest at hshort
    obtain ⟨q, e⟩ := shortest
    have hq : 0 < q := by
      rw [Nat.pos_iff_ne_zero]
      rintro rfl
      exact hpos.ne hshort
    obtain ⟨hne, hd, hlead, hvalue⟩ := trimZeros_digits hq
    obtain ⟨n, e', htext, hn⟩ := decimalText_layoutDigits hne hd hlead (e + (digits q).length - 1)
    refine ⟨n, e', htext, ?_⟩
    rw [decimalMagnitude_eq, hn, sub_add_cancel, hvalue, ← decimalMagnitude_eq]
    exact hshort

section
variable {x : Binary64}

lemma text_of_isFinite (hx : x.isFinite = true) :
    x.text = if x.negative then '-' :: magnitudeText x.magnitude
      else magnitudeText x.magnitude := by
  simp [Binary64.text, Binary64.isNaN_of_isFinite hx, hx]

lemma decimalText_of_isFinite (hx : x.isFinite = true) :
    ∃ n e, DecimalText (magnitudeText x.magnitude) n e ∧ decimalMagnitude n e = x.magnitude :=
  decimalText_magnitudeText (of_decide_eq_true hx)

lemma spanSign_text (hx : x.isFinite = true) :
    spanSign x.text = (x.negative, magnitudeText x.magnitude) := by
  rw [text_of_isFinite hx]
  cases x.negative with
  | true => rfl
  | false =>
    obtain ⟨n, e, htext, -⟩ := decimalText_of_isFinite hx
    obtain ⟨c, cs, hcs, hc⟩ := htext.exists_eq_cons
    simp [hcs, spanSign_of_isDigit hc]

theorem readFinite?_text (hx : x.isFinite = true) : readFinite? x.text = some x := by
  obtain ⟨n, e, htext, hm⟩ := decimalText_of_isFinite hx
  have hdec : Binary64.ofDecimal x.negative n e = x := Binary64.ext rfl hm
  simp [readFinite?, htext.readDecimal?_eq (spanSign_text hx), hdec, hx]

lemma readInt?_text (hx : x.isFinite = true) : readInt? x.text = none := by
  obtain ⟨n, e, htext, -⟩ := decimalText_of_isFinite hx
  exact htext.readInt?_eq_none (spanSign_text hx)

lemma isNumeral_of_mem_text (hx : x.isFinite = true) (hc : c ∈ x.text) : isNumeral c = true := by
  obtain ⟨n, e, htext, -⟩ := decimalText_of_isFinite hx
  rw [text_of_isFinite hx] at hc
  split at hc
  · rcases List.mem_cons.mp hc with rfl | hc
    · rfl
    · exact htext.isNumeral_of_mem hc
  · exact htext.isNumeral_of_mem hc

end

end StepConditions.Numeric
