import Mathlib
import StepConditions.Proofs.Decimal
import StepConditions.Proofs.JsonText

/-!
# Number literals as decimal texts

The readers of numbers in documents and of decimal texts take the same texts apart into the same
sign, digits and power of ten. What they make of these parts differs: only the decimal reader rounds
the exact value.
-/
namespace StepConditions.Json
open Numeric
variable {l : Literal} {fraction : Option (List Char)} {exponent : Option (Bool × List Char)}
  {cs rest text : List Char} {c : Char}

/-- The texts of a fraction part, or of none. -/
inductive FractionText : Option (List Char) → List Char → Prop
  | absent : FractionText none []
  | present {digits : List Char} (hne : digits ≠ []) (hd : ∀ c ∈ digits, c.isDigit = true) :
      FractionText (some digits) ('.' :: digits)

/-- The texts of an exponent part, or of none. -/
inductive PowerText : Option (Bool × List Char) → List Char → Prop
  | absent : PowerText none []
  | present {mark : Char} {down : Bool} {sign digits : List Char} (hm : mark = 'e' ∨ mark = 'E')
      (hs : sign ∈ signTexts down) (hne : digits ≠ []) (hd : ∀ c ∈ digits, c.isDigit = true) :
      PowerText (some (down, digits)) (mark :: (sign ++ digits))

/-- The texts of a literal: the letter of the exponent part, and a plus sign there, are free. -/
inductive LiteralText : Literal → List Char → Prop
  | mk {minus : Bool} {whole ft pt : List Char} {fraction : Option (List Char)}
      {exponent : Option (Bool × List Char)} (hne : whole ≠ [])
      (hd : ∀ c ∈ whole, c.isDigit = true) (hf : FractionText fraction ft)
      (hp : PowerText exponent pt) :
      LiteralText ⟨minus, whole, fraction, exponent⟩
        ((if minus then ['-'] else []) ++ (whole ++ (ft ++ pt)))

lemma exists_powerText (h : readPower? cs = some (exponent, rest)) :
    ∃ text, PowerText exponent text ∧ cs = text ++ rest := by
  unfold readPower? at h
  split at h
  next =>
    cases h
    exact ⟨[], .absent, rfl⟩
  next c cs =>
    split at h
    next hc =>
      simp only at h
      split at h
      next => cases h
      next hne =>
        cases h
        obtain ⟨sign, hsign, hcs⟩ := exists_signText cs
        refine ⟨_, .present (by simpa using hc) hsign (by simpa using hne)
          isDigit_of_mem_spanDigits, ?_⟩
        rw [List.cons_append, List.append_assoc, spanDigits_fst_append, hcs]
    next =>
      cases h
      exact ⟨[], .absent, rfl⟩

lemma exists_fractionText (h : readFraction? cs = some (fraction, rest)) :
    ∃ text, FractionText fraction text ∧ cs = text ++ rest := by
  unfold readFraction? at h
  split at h
  next cs =>
    simp only at h
    split at h
    next => cases h
    next hne =>
      cases h
      refine ⟨_, .present (by simpa using hne) isDigit_of_mem_spanDigits, ?_⟩
      rw [List.cons_append, spanDigits_fst_append]
  next =>
    cases h
    exact ⟨[], .absent, rfl⟩

/-- What is split off as a literal is a text of it. -/
lemma exists_literalText (h : readLiteral? cs = some (l, rest)) :
    ∃ text, LiteralText l text ∧ cs = text ++ rest := by
  unfold readLiteral? at h
  split at h
  next minus unsigned hs =>
    have hcs : (if minus then ['-'] else []) ++ unsigned = cs := by
      split at hs
      · cases hs
        rfl
      · cases hs
        rfl
    simp only [Option.bind_eq_bind] at h
    obtain ⟨_, hguard, h⟩ := Option.bind_eq_some_iff.mp h
    obtain ⟨⟨fraction, afterFraction⟩, hfraction, h⟩ := Option.bind_eq_some_iff.mp h
    obtain ⟨⟨exponent, afterExponent⟩, hexponent, h⟩ := Option.bind_eq_some_iff.mp h
    cases h
    obtain ⟨ft, hft, hf⟩ := exists_fractionText hfraction
    obtain ⟨pt, hpt, hp⟩ := exists_powerText hexponent
    have hne : (spanDigits unsigned).1 ≠ [] := by
      intro hnil
      simp [hnil] at hguard
    refine ⟨_, .mk hne isDigit_of_mem_spanDigits hft hpt, ?_⟩
    rw [List.append_assoc, List.append_assoc, List.append_assoc, ← hp, ← hf,
      spanDigits_fst_append, hcs]

namespace Literal

/-- All digits of a literal as one number. -/
def number (l : Literal) : ℕ :=
  digitsValue 0 (l.whole ++ l.fraction.getD [])

/-- The power of ten in the exponent part. -/
def written (l : Literal) : ℤ :=
  (l.exponent.map fun (down, ds) => signed down (digitsValue 0 ds)).getD 0

/-- The power of ten that belongs to the last digit. -/
def tens (l : Literal) : ℤ :=
  l.written - (l.fraction.getD []).length

/-- The value of a literal without its sign. -/
def decimal (l : Literal) : ℚ :=
  decimalValue l.number l.tens

end Literal

namespace PowerText

lemma noDigit (h : PowerText exponent text) : NoDigit text := by
  cases h with
  | absent => simp [NoDigit]
  | present hm => rcases hm with rfl | rfl <;> simp [NoDigit]

lemma readExponent?_eq (h : PowerText exponent text) :
    readExponent? text =
      some ((exponent.map fun (down, ds) => signed down (digitsValue 0 ds)).getD 0) := by
  cases h with
  | absent => rfl
  | present hm hs hne hd => rcases hm with rfl | rfl <;> exact readInt?_append hs hne hd

end PowerText

namespace LiteralText

/-- Behind the sign are the digits, the fraction part and the exponent part. -/
lemma exists_unsigned (h : LiteralText l text) :
    ∃ ft pt, FractionText l.fraction ft ∧ PowerText l.exponent pt ∧ l.whole ≠ [] ∧
      (∀ c ∈ l.whole, c.isDigit = true) ∧ spanSign text = (l.negative, l.whole ++ (ft ++ pt)) := by
  obtain @⟨minus, whole, ft, pt, fraction, exponent, hne, hd, hf, hp⟩ := h
  exact ⟨ft, pt, hf, hp, hne, hd, spanSign_append (minus_mem_signTexts minus) hne hd _⟩

/-- The decimal reader finds the same parts in the text of a literal. -/
lemma readDecimal?_eq (h : LiteralText l text) :
    readDecimal? text = some (l.negative, l.number, l.tens) := by
  obtain ⟨minus, whole, fraction, exponent⟩ := l
  obtain ⟨ft, pt, hf, hp, hne, hd, hunsigned⟩ := h.exists_unsigned
  have hpower := hp.readExponent?_eq
  simp only [readDecimal?, hunsigned, Literal.number, Literal.tens, Literal.written]
  cases hf with
  | absent =>
    rw [List.nil_append, spanDigits_append hd hp.noDigit]
    cases hp with
    | absent => simp [hne, hpower]
    | present hm hs hne' hd' => rcases hm with rfl | rfl <;> simp [hne, hpower]
  | @present digits hne' hd' =>
    have hpoint : NoDigit ('.' :: (digits ++ pt)) := by simp [NoDigit]
    rw [List.cons_append, spanDigits_append hd hpoint]
    simp [spanDigits_append hd' hp.noDigit, hne, hpower]

/-- Without a fraction and an exponent part the text is an integer, with one of them it is none. -/
lemma readInt?_eq (h : LiteralText l text) :
    readInt? text = if l.fraction.isSome || l.exponent.isSome then none
      else some (signed l.negative (digitsValue 0 l.whole)) := by
  obtain ⟨minus, whole, fraction, exponent⟩ := l
  obtain ⟨ft, pt, hf, hp, hne, hd, hunsigned⟩ := h.exists_unsigned
  have hall : whole.all Char.isDigit = true := List.all_eq_true.mpr hd
  simp only [readInt?, hunsigned]
  cases hf with
  | absent =>
    cases hp with
    | absent => simp [hne, hall]
    | present hm hs hne' hd' => rcases hm with rfl | rfl <;> simp
  | present hne' hd' => simp

lemma exists_eq_cons (h : LiteralText l text) :
    ∃ c cs, text = c :: cs ∧ (c = '-' ∨ c.isDigit = true) := by
  obtain @⟨minus, whole, ft, pt, fraction, exponent, hne, hd, hf, hp⟩ := h
  obtain ⟨c, cs, rfl⟩ := List.exists_cons_of_ne_nil hne
  cases minus with
  | true => exact ⟨'-', _, rfl, .inl rfl⟩
  | false => exact ⟨c, _, rfl, .inr (hd c List.mem_cons_self)⟩

/-- Among the characters of a literal only the letter of an exponent part may be a capital. -/
lemma isNumeral_of_mem (h : LiteralText l text) (hc : c ∈ text) : isNumeral c = true ∨ c = 'E' := by
  have hdigit : ∀ {ds : List Char}, (∀ c ∈ ds, c.isDigit = true) → c ∈ ds →
      isNumeral c = true ∨ c = 'E' := fun hd hc => .inl (isNumeral_of_isDigit (hd c hc))
  obtain @⟨minus, whole, ft, pt, fraction, exponent, hne, hd, hf, hp⟩ := h
  simp only [List.mem_append] at hc
  rcases hc with hc | hc | hc | hc
  · exact .inl (isNumeral_of_mem_signText (minus_mem_signTexts minus) hc)
  · exact hdigit hd hc
  · cases hf with
    | absent => cases hc
    | present _ hd =>
      rcases List.mem_cons.mp hc with rfl | hc
      · exact .inl rfl
      · exact hdigit hd hc
  · cases hp with
    | absent => cases hc
    | present hm hs _ hd =>
      simp only [List.mem_cons, List.mem_append] at hc
      rcases hc with rfl | hc | hc
      · rcases hm with rfl | rfl
        · exact .inl rfl
        · exact .inr rfl
      · exact .inl (isNumeral_of_mem_signText hs hc)
      · exact hdigit hd hc

end LiteralText

lemma readNumber?_of_readValueAux {n : Number} {fuel d : ℕ}
    (h : readValueAux fuel d cs = some (number n, rest)) : readNumber? cs = some (n, rest) := by
  cases fuel with
  | zero => simp [readValueAux] at h
  | succ fuel =>
    rw [readValueAux.eq_def] at h
    dsimp only at h
    split at h
    case h_1 => cases h
    case h_3 =>
      split at h
      · cases h
      · split at h
        · cases h
        · obtain ⟨⟨items, _⟩, -, he⟩ := Option.map_eq_some_iff.mp h
          cases he
    case h_4 =>
      split at h
      · cases h
      · split at h
        · cases h
        · obtain ⟨⟨members, _⟩, -, he⟩ := Option.map_eq_some_iff.mp h
          cases he
    case h_8 =>
      obtain ⟨⟨m, _⟩, hm, he⟩ := Option.map_eq_some_iff.mp h
      cases he
      exact hm
    -- what begins with a letter or a quote is no number
    all_goals
      obtain ⟨_, -, he⟩ := Option.map_eq_some_iff.mp h
      cases he

lemma readValueAux_of_readLiteral? {n : Number} {fuel d : ℕ}
    (hl : readLiteral? cs = some (l, rest)) (hn : l.number? = some n) :
    readValueAux (fuel + 1) d cs = some (number n, rest) := by
  obtain ⟨text, htext, hcs⟩ := exists_literalText hl
  obtain ⟨c, ds, hds, hc⟩ := htext.exists_eq_cons
  have hread : readNumber? cs = some (n, rest) := by simp [readNumber?, hl, hn]
  rw [hcs, hds, List.cons_append] at hread ⊢
  rw [readValueAux_number hc, hread]
  rfl

/-- A text that is read as a number is a literal with blanks around it. -/
theorem parse?_eq_number_iff {n : Number} {s : String} :
    parse? s = some (number n) ↔
      ∃ l rest, readLiteral? (skipBlank s.toList) = some (l, rest) ∧ skipBlank rest = [] ∧
        l.number? = some n := by
  constructor
  · intro h
    simp only [parse?] at h
    split at h
    next j rest hj =>
      split at h
      next hrest =>
        cases h
        have hn := readNumber?_of_readValueAux hj
        obtain ⟨⟨l, _⟩, hl, hn⟩ := Option.bind_eq_some_iff.mp hn
        obtain ⟨m, hm, he⟩ := Option.bind_eq_some_iff.mp hn
        cases he
        exact ⟨l, rest, hl, by simpa using hrest, hm⟩
      next => cases h
    next => cases h
  · rintro ⟨l, rest, hl, hrest, hn⟩
    simp [parse?, readValueAux_of_readLiteral? hl hn, hrest]

end StepConditions.Json
