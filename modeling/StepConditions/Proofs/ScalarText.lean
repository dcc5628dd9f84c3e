import Mathlib
import StepConditions.Proofs.LiteralValue

/-!
# Scalar values read back from their text

A value that a leaf of a document stands for is written as the text of that leaf. Reading the text
gives the value again for null, texts, truth values and integers. The text of a double is a literal
whose nearest double it is; as literals are read approximately, it is read back as itself exactly if
the approximation meets the nearest double, as it does for short literals.
-/
namespace StepConditions
open Numeric Json

namespace Json
variable {body : List Char} {n : ℕ} {e : ℤ} {l : Literal} {x : Finite}

lemma readPower?_powerText (power : Option ℤ) :
    readPower? (powerText power) =
      some (power.map fun x => (decide (x < 0), digits x.natAbs), []) := by
  cases power with
  | none => rfl
  | some x =>
    have hd : ∀ c ∈ digits x.natAbs, c.isDigit = true := fun _ => isDigit_of_mem_digits
    have hspan := spanDigits_append hd (show NoDigit [] by simp [NoDigit])
    rw [List.append_nil] at hspan
    by_cases hx : x < 0 <;> simp [powerText, readPower?, spanSign, hx, hspan, digits_ne_nil]

/-- What a double is written as is a literal with a fraction or an exponent part. -/
lemma exists_readLiteral? (h : DecimalText body n e) (negative : Bool) :
    ∃ l, readLiteral? (if negative then '-' :: body else body) = some (l, []) ∧
      (l.fraction.isSome || l.exponent.isSome) = true := by
  obtain ⟨c, cs, hcs, hc⟩ := h.exists_eq_cons
  have hminus : c ≠ '-' := by
    rintro rfl
    cases hc
  cases h with
  | @point whole fraction power hw hne hf =>
    have hpoint : NoDigit ('.' :: (fraction ++ powerText power)) := by simp [NoDigit]
    have hwhole := spanDigits_append hw.digits hpoint
    have hfraction := spanDigits_append hf (noDigit_powerText power)
    have hlead := hw.lead
    refine ⟨⟨negative, whole, some fraction,
      power.map fun x => (decide (x < 0), digits x.natAbs)⟩, ?_, rfl⟩
    rw [hcs] at hwhole ⊢
    cases negative <;>
      simp [readLiteral?, hminus, hwhole, hw.ne_nil, hlead, readFraction?, hfraction, hne,
        readPower?_powerText]
  | @exponent whole _ hw =>
    have hwhole := spanDigits_append hw.digits (noDigit_powerText (some e))
    have hfraction : readFraction? (powerText (some e)) = some (none, powerText (some e)) := rfl
    have hlead := hw.lead
    refine ⟨⟨negative, whole, none, some (decide (e < 0), digits e.natAbs)⟩, ?_, rfl⟩
    rw [hcs] at hwhole ⊢
    cases negative <;>
      simp [readLiteral?, hminus, hwhole, hw.ne_nil, hlead, hfraction, readPower?_powerText]

/-- The literal that a double is written as has it for its nearest double. -/
lemma exists_literal_of_text (x : Finite) :
    ∃ l, readLiteral? x.val.text = some (l, []) ∧ l.whole? = none ∧ (Number.float x).Nearest l := by
  obtain ⟨n, e, htext, hm⟩ := decimalText_of_isFinite x.finite
  obtain ⟨l, hl, hparts⟩ := exists_readLiteral? htext x.val.negative
  rw [← text_of_isFinite x.finite] at hl
  refine ⟨l, hl, if_pos hparts, ?_⟩
  -- the reader of decimals takes the same text apart in both ways
  obtain ⟨text, hliteral, htext'⟩ := exists_literalText hl
  rw [List.append_nil] at htext'
  have hparts := hliteral.readDecimal?_eq
  rw [← htext', htext.readDecimal?_eq (spanSign_text x.finite), Option.some.injEq,
    Prod.mk.injEq, Prod.mk.injEq] at hparts
  obtain ⟨hsign, hnumber, htens⟩ := hparts
  refine ⟨hsign, ?_⟩
  rw [Literal.abs_value, Literal.decimal, ← decimalMagnitude_eq, ← hnumber, ← htens]
  exact hm.symm

lemma skipBlank_text (x : Finite) : skipBlank x.val.text = x.val.text := by
  have hnumeral : ∀ c ∈ x.val.text, isNumeral c = true := fun _ => isNumeral_of_mem_text x.finite
  cases h : x.val.text with
  | nil => rfl
  | cons c cs =>
    have hspace := Text.isSpace_of_isNumeral (hnumeral c (by simp [h]))
    apply skipBlank_cons
    rw [Bool.eq_false_iff]
    intro hblank
    rw [isSpace_of_isBlankChar hblank] at hspace
    cases hspace

lemma parse?_text_eq_iff (hl : readLiteral? x.val.text = some (l, [])) :
    parse? (String.ofList x.val.text) = some (number (.float x)) ↔
      l.number? = some (.float x) := by
  rw [parse?_eq_number_iff, String.toList_ofList, skipBlank_text, hl]
  constructor
  · rintro ⟨l', rest, h, -, hn⟩
    cases h
    exact hn
  · intro hn
    exact ⟨l, [], rfl, rfl, hn⟩

namespace Literal

lemma number?_eq_float_iff (hwhole : l.whole? = none) :
    l.number? = some (.float x) ↔ l.float? = some x.val := by
  refine ⟨fun h => (of_number?_float h).2, fun h => ?_⟩
  rw [number?, hwhole, h]
  exact dif_pos x.finite

/-- A literal is read as its nearest double, if it is read as one that is as near. -/
lemma float?_eq_iff_of_nearest (h : (Number.float x).Nearest l) :
    l.float? = some x.val ↔ ∃ y, l.float? = some y ∧ y.magnitude = nearestMagnitude |l.value| := by
  refine ⟨fun hx => ⟨_, hx, h.2⟩, ?_⟩
  rintro ⟨y, hy, hm⟩
  have hsign : y.negative = x.val.negative := (negative_of_float? hy).trans h.1.symm
  rw [hy, Binary64.ext hsign (hm.trans h.2.symm)]

end Literal

/-- With both operands exact only a value that is too large is not read. -/
lemma exists_approximate? (hn : n ≤ 2 ^ 53) (he : e.natAbs ≤ 22)
    (hfinite : nearestMagnitude (decimalValue n e) < infiniteMagnitude) :
    ∃ y, approximate? n e = some y := by
  have hsteps : e.natAbs ≤ 308 := by omega
  simp only [approximate?, scaleTen?, hsteps, if_true]
  split
  next hup =>
    have hmul : ((Binary64.ofNat n).mul (powTen e.natAbs)).isFinite = true := by
      apply decide_eq_true
      rwa [magnitude_ofNat_mul_powTen hn (by omega), Int.natAbs_of_nonneg hup]
    exact ⟨_, if_pos hmul⟩
  next => exact ⟨_, rfl⟩

lemma Literal.float?_of_short_nearest (hs : l.Short) (h : (Number.float x).Nearest l) :
    l.float? = some x.val := by
  have hm := h.2
  rw [abs_value] at hm
  have hfinite : nearestMagnitude l.decimal < infiniteMagnitude :=
    hm ▸ of_decide_eq_true x.finite
  obtain ⟨y, hy⟩ := exists_approximate? hs.1 hs.2.1 hfinite
  have hfloat := float?_of_short hs
  rw [hy, Option.map_some] at hfloat
  rw [float?_eq_iff_of_nearest h, abs_value]
  exact ⟨_, hfloat, magnitude_of_short hs hfloat⟩

end Json

namespace Value
variable {v : Value} {x : Finite} {j : Json}

/-- Whether a leaf of a document may have the value: an integer is as narrow as it fits, and a double
is finite. -/
def isScalar : Value → Bool
  | null | text _ | bool _ | int _ => true
  | long i => !(-0x80000000 ≤ i.toInt && i.toInt < 0x80000000)
  | float x => x.isFinite
  | raw _ => false

def isFloat : Value → Bool
  | float _ => true
  | _ => false

lemma ofJson_eq_float_iff : ofJson j = .float x.val ↔ j = .number (.float x) := by
  constructor
  · intro h
    cases j with
    | number n =>
      cases n with
      | whole i =>
        rw [ofJson, ofNumber, ofInt] at h
        split at h
        · split at h <;> cases h
        · cases h
      | float y =>
        obtain ⟨y, hy⟩ := y
        cases h
        rfl
    | _ => cases h
  · rintro rfl
    rfl

lemma ofJson_intNode {i : ℤ} (hl : -0x8000000000000000 ≤ i) (hh : i < 0x8000000000000000) :
    ofJson (intNode i) = ofInt i := by
  have hnode := intNode_whole ⟨i, hl, by omega⟩
  dsimp only at hnode
  rw [hnode]
  exact if_pos hh

lemma ofJson_toJson (hv : v.isScalar = true) (hf : v.isFloat = false) : ofJson v.toJson = v := by
  cases v with
  | null | text _ | bool _ => rfl
  | int i =>
    have hl := i.le_toInt
    have hh := i.toInt_lt
    rw [toJson, ofJson_intNode (by omega) (by omega), ofInt, if_pos ⟨hl, hh⟩, Int32.ofInt_toInt]
  | long i =>
    have hl := i.le_toInt
    have hh := i.toInt_lt
    have hwide : i.toInt < -0x80000000 ∨ 0x80000000 ≤ i.toInt := by simpa [isScalar] using hv
    rw [toJson, ofJson_intNode (by omega) (by omega), ofInt, if_neg (by omega),
      Int64.ofInt_toInt]
  | float x => cases hf
  | raw s => cases hv

lemma print_toJson_float (x : Finite) : (float x.val).toJson.print = String.ofList x.val.text := by
  have hnode : (float x.val).toJson = .number (.float x) := by
    simp [toJson, Number.ofBinary64?, x.finite]
  rw [hnode, print_number, Number.text]

lemma intNode_shape {i : ℤ} (hl : -0x8000000000000000 ≤ i) (hh : i < 0x8000000000000000) :
    (intNode i).wellFormed = true ∧ (intNode i).floatFree = true ∧ (intNode i).depth = 0 := by
  have hnode := intNode_whole ⟨i, hl, by omega⟩
  dsimp only at hnode
  rw [hnode]
  exact ⟨rfl, rfl, rfl⟩

lemma toJson_shape (hv : v.isScalar = true) (hf : v.isFloat = false) :
    v.toJson.wellFormed = true ∧ v.toJson.floatFree = true ∧ v.toJson.depth = 0 := by
  cases v with
  | null | text _ | bool _ => exact ⟨rfl, rfl, rfl⟩
  | int i =>
    have hl := i.le_toInt
    have hh := i.toInt_lt
    exact intNode_shape (by omega) (by omega)
  | long i =>
    have hl := i.le_toInt
    have hh := i.toInt_lt
    exact intNode_shape (by omega) (by omega)
  | float x => cases hf
  | raw s => cases hv

lemma parse?_print_of_isFloat_eq_false (hv : v.isScalar = true) (hf : v.isFloat = false) :
    parse? v.toJson.print = some v := by
  obtain ⟨hw, hfree, hdepth⟩ := toJson_shape hv hf
  rw [parse?, parse?_print hw hfree (by omega), Option.map_some, ofJson_toJson hv hf]

lemma parse?_text_eq_iff {l : Literal} (hl : readLiteral? x.val.text = some (l, []))
    (hwhole : l.whole? = none) :
    parse? (String.ofList x.val.text) = some (float x.val) ↔ l.float? = some x.val := by
  rw [← Literal.number?_eq_float_iff hwhole, ← Json.parse?_text_eq_iff hl, parse?,
    Option.map_eq_some_iff]
  constructor
  · rintro ⟨j, hj, hfloat⟩
    rw [hj, ofJson_eq_float_iff.mp hfloat]
  · intro h
    exact ⟨_, h, rfl⟩

/-- A scalar value that is no double is read back from its text. The text of a double is a literal
that it is the nearest double of, and it is read back exactly if that literal is read as its nearest
double, which every short literal is. -/
theorem parse?_print_toJson_scalar (hv : v.isScalar = true) :
    (v.isFloat = false → parse? v.toJson.print = some v) ∧
    ∀ x, v = .float x → ∃ l, readLiteral? v.toJson.print.toList = some (l, []) ∧
      (x.negative = l.negative ∧ x.magnitude = nearestMagnitude |l.value|) ∧
      (parse? v.toJson.print = some v ↔
        ∃ y, l.float? = some y ∧ y.magnitude = nearestMagnitude |l.value|) ∧
      (l.Short → parse? v.toJson.print = some v) := by
  refine ⟨parse?_print_of_isFloat_eq_false hv, ?_⟩
  rintro x rfl
  obtain ⟨l, hl, hwhole, hnearest⟩ := exists_literal_of_text ⟨x, hv⟩
  have hprint := print_toJson_float ⟨x, hv⟩
  have hparse := parse?_text_eq_iff hl hwhole
  dsimp only at hl hprint hparse
  rw [hprint, String.toList_ofList, hparse]
  exact ⟨l, hl, hnearest, Literal.float?_eq_iff_of_nearest hnearest,
    fun hs => Literal.float?_of_short_nearest hs hnearest⟩

/-- A tenth is written with one digit, which is read as the double nearest to it. -/
theorem parse?_print_toJson_scalar_tenth :
    parse? (Value.float ⟨false, 0x3FB999999999999A, by decide⟩).toJson.print =
      some (.float ⟨false, 0x3FB999999999999A, by decide⟩) := by
  obtain ⟨l, hl, -, -, hshort⟩ := (parse?_print_toJson_scalar
    (v := .float ⟨false, 0x3FB999999999999A, by decide⟩) rfl).2 _ rfl
  have hprint : (Value.float ⟨false, 0x3FB999999999999A, by decide⟩).toJson.print = "0.1" := by
    decide +kernel
  have hread : readLiteral? "0.1".toList = some (⟨false, ['0'], some ['1'], none⟩, []) := by cbv
  rw [hprint, hread] at hl
  cases hl
  exact hshort ⟨by decide, by decide, by decide⟩

/-- The largest integer below `2 ^ 53` is written with a zero after the point. Its digits are
rounded before they are divided by ten, which leaves the integer below it. -/
theorem not_parse?_print_toJson :
    let v : Value := .float ⟨false, 0x433FFFFFFFFFFFFF, by decide⟩
    v.isScalar = true ∧ v.toJson.print = "9007199254740991.0" ∧
      parse? v.toJson.print = some (.float ⟨false, 0x433FFFFFFFFFFFFE, by decide⟩) ∧
      parse? v.toJson.print ≠ some v := by
  intro v
  have hprint : v.toJson.print = "9007199254740991.0" := by decide +kernel
  have hparse : parse? "9007199254740991.0" =
      some (.float ⟨false, 0x433FFFFFFFFFFFFE, by decide⟩) := by decide +kernel
  rw [hprint, hparse]
  exact ⟨rfl, rfl, rfl, by decide⟩

end Value

end StepConditions
