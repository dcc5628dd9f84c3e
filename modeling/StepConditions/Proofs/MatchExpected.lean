import Mathlib
import StepConditions.Proofs.Conjunction
import StepConditions.Proofs.Numeral
import StepConditions.Proofs.SameValue

/-!
# Conditions on values read as the expected kind

What a condition answers when the current text is read again as the kind of the expected value: by
words for truth values, by the integer or the nearest double for numbers, and by the text itself for
all other kinds. A text that is no number is neither equal to a number nor in any order with it.
-/
namespace StepConditions
open Numeric

namespace Coercion
variable {s t : String} {b : Bool} {i : ℤ} {expected : Value}

/-- The text trimmed is the word of a truth value, its letters capitals or not. -/
lemma readBool?_eq_some_iff : readBool? s = some b ↔
    (Text.trimChars s.toList).map Char.toLower = (Value.boolText b).toList := by
  have hne : ("true" : String) ≠ "false" := by decide
  have hlower : (Text.lowerAscii (Text.trim s)).toList =
      (Text.trimChars s.toList).map Char.toLower := by
    simp [Text.lowerAscii, Text.trim]
  rw [← hlower, String.toList_inj]
  simp only [readBool?]
  split
  next h => cases b <;> simp [Value.boolText, h, hne]
  next h =>
    split
    next h' => cases b <;> simp [Value.boolText, h', hne.symm]
    next h' => cases b <;> simp [Value.boolText, h, h']

/-- The text trimmed is an integer of 64 bits. -/
def LongText (s : String) (i : ℤ) : Prop :=
  IntegerText (Text.trimChars s.toList) i ∧ -0x8000000000000000 ≤ i ∧ i < 0x8000000000000000

lemma readLong?_eq_some_iff : readLong? s = some i ↔ LongText s i := by
  rw [readLong?, Option.filter_eq_some_iff, readInt?_eq_some_iff, LongText]
  simp

lemma readNumber?_of_longText (h : LongText s i) : readNumber? s = some (.ofInt i) := by
  rw [readNumber?, readLong?_eq_some_iff.mpr h]

lemma readNumber?_eq_none (hi : ¬ ∃ i, LongText s i)
    (hf : ¬ FiniteText (Text.trimChars s.toList)) : readNumber? s = none := by
  have hlong : readLong? s = none := by
    rw [Option.eq_none_iff_forall_ne_some]
    exact fun i h => hi ⟨i, readLong?_eq_some_iff.mp h⟩
  rw [readNumber?, hlong]
  simp [readFinite?_eq_none_iff.mpr hf]

/-- A truth value is equal to the text of its word and to no other. -/
lemma equal_apply_bool (t : String) (b : Bool) :
    (matchExpected.apply t (.bool b)).equal (.bool b) = true ↔
      (Text.trimChars t.toList).map Char.toLower = (Value.boolText b).toList := by
  have happly : matchExpected.apply t (.bool b) =
      ((readBool? t).map Value.bool).getD (.text t) := rfl
  rw [← readBool?_eq_some_iff, happly, Value.equal_iff_eq (.inr rfl)]
  cases readBool? t <;> simp

end Coercion

namespace Condition
variable {mode : Coercion} {operator t : String} {op : Operator} {expected : Value} {c : Condition}
  {resolve : Resolver}

/-- Values of the other kinds are compared with the text as it is. -/
lemma satisfied_of_untyped (hop : Operator.find? operator = some op)
    (h : expected = .null ∨ (∃ s, expected = .text s) ∨ (∃ s, expected = .raw s)) (t : String) :
    satisfied .matchExpected operator expected t = satisfied .text operator expected t := by
  have hnumeric : expected.isNumeric = false := by
    rcases h with rfl | ⟨s, rfl⟩ | ⟨s, rfl⟩ <;> rfl
  have happly : Coercion.matchExpected.apply t expected = Coercion.text.apply t expected := by
    rcases h with rfl | ⟨s, rfl⟩ | ⟨s, rfl⟩ <;> rfl
  rw [satisfied_eq_holds hop (.inl rfl), satisfied_eq_holds hop (.inr (.inr (.inl hnumeric))),
    happly]

lemma satisfied_bool (hop : Operator.find? operator = some op) (t : String) (b : Bool) :
    satisfied .matchExpected operator (.bool b) t =
      op.holds (Coercion.matchExpected.apply t (.bool b)) (.bool b) :=
  satisfied_eq_holds hop (.inr (.inr (.inl rfl)))

lemma satisfied_of_longText {i : Json.Whole} (hop : Operator.find? operator = some op)
    (he : expected.isNumeric = true) (hi : Coercion.LongText t i.val) :
    satisfied .matchExpected operator expected t =
      op.holds (.ofJson (.number (.whole i))) expected := by
  have happly : Coercion.matchExpected.apply t expected = .ofInt i.val := by
    rw [Coercion.apply_of_isNumeric he, Coercion.readNumber?_of_longText hi, Option.getD_some]
  have hvalue : Value.ofJson (.number (.whole i)) = .ofInt i.val := if_pos hi.2.2
  have hnumeric : (Coercion.matchExpected.apply t expected).isNumeric = true := by
    rw [happly, Value.isNumeric_ofInt]
  rw [satisfied_eq_holds hop (.inr (.inr (.inr hnumeric))), happly, hvalue]

/-- What does not read as a number stays a text, which no number is equal to or ordered with. -/
lemma satisfied_of_no_number (hop : Operator.find? operator = some op)
    (he : expected.isNumeric = true) (hi : ¬ ∃ i, Coercion.LongText t i)
    (hf : ¬ FiniteText (Text.trimChars t.toList)) :
    (op = .equal ∨ op.isOrdering = true → satisfied .matchExpected operator expected t = false) ∧
      (op = .notEqual → satisfied .matchExpected operator expected t = true) := by
  have happly : Coercion.matchExpected.apply t expected = .text t := by
    rw [Coercion.apply_of_isNumeric he, Coercion.readNumber?_eq_none hi hf, Option.getD_none]
  have hunequal : (Value.text t).equal expected = false := by
    rw [Bool.eq_false_iff, ne_eq, Value.equal_iff_eq (.inl rfl)]
    rintro rfl
    cases he
  constructor
  · rintro (rfl | ho)
    · rw [satisfied_eq_holds hop (.inr (.inl rfl)), happly]
      exact hunequal
    · exact satisfied_of_unorderable hop ho he (by rw [happly]; rfl)
  · rintro rfl
    rw [satisfied_eq_holds hop (.inr (.inl rfl)), happly, Operator.holds, hunequal]
    rfl

/-- A list of one condition whose field has a text. -/
lemma evaluateAll_singleton (hc : c.Complete) (hr : resolve c.pair.1 c.pair.2 = .ok (some t))
    (hop : c.operator = some operator) (mode : Coercion) :
    evaluateAll mode (some [c]) (some resolve) =
      ⟨satisfied mode operator c.expected t, [c.pair]⟩ := by
  obtain ⟨n, hn⟩ := (complete_iff_exists_names 0).mp hc
  obtain ⟨hpair, hoperator⟩ := pair_of_names hn
  obtain rfl : operator = n.operator := Option.some.inj (hop.symm.trans hoperator)
  rw [hpair] at hr ⊢
  rw [evaluateAll, Option.getD_some, evaluateWith_some, Outcome.all, Outcome.all,
    Outcome.andThen_vacuous, check]
  simp [hn, hr]

end Condition

section
variable {c : Condition} {resolve : Resolver} {op : Operator} {t : String}

/-- What a condition answers for a current text when values are read as the expected kind. -/
theorem evaluateAll_matchExpected (hc : c.Complete)
    (hop : c.operator.bind Operator.find? = some op)
    (hr : resolve c.pair.1 c.pair.2 = .ok (some t)) :
    ∃ passed, evaluateAll .matchExpected (some [c]) (some resolve) = ⟨passed, [c.pair]⟩ ∧
      (c.expected = .null ∨ (∃ s, c.expected = .text s) ∨ (∃ s, c.expected = .raw s) →
        evaluateAll .text (some [c]) (some resolve) = ⟨passed, [c.pair]⟩) ∧
      (∀ b, c.expected = .bool b →
        (op = .equal → (passed = true ↔
          (Text.trimChars t.toList).map Char.toLower = (Value.boolText b).toList)) ∧
        (op = .notEqual → (passed = true ↔
          (Text.trimChars t.toList).map Char.toLower ≠ (Value.boolText b).toList))) ∧
      (c.expected.isNumeric = true →
        (∀ i : Json.Whole, Coercion.LongText t i.val →
          passed = op.holds (.ofJson (.number (.whole i))) c.expected) ∧
        ((¬ ∃ i, Coercion.LongText t i) → ¬ FiniteText (Text.trimChars t.toList) →
          (op = .equal ∨ op.isOrdering = true → passed = false) ∧
          (op = .notEqual → passed = true))) := by
  obtain ⟨operator, hoperator, hfind⟩ := Option.bind_eq_some_iff.mp hop
  have heval := Condition.evaluateAll_singleton hc hr hoperator
  refine ⟨_, heval .matchExpected, fun hkind => ?_, fun b hb => ?_, fun hn => ⟨fun i hi => ?_,
    fun hi hf => ?_⟩⟩
  · rw [heval .text, Condition.satisfied_of_untyped hfind hkind]
  · rw [hb, Condition.satisfied_bool hfind]
    constructor
    · rintro rfl
      exact Coercion.equal_apply_bool t b
    · rintro rfl
      rw [ne_eq, ← Coercion.equal_apply_bool t b]
      simp [Operator.holds]
  · exact Condition.satisfied_of_longText hfind hn hi
  · exact Condition.satisfied_of_no_number hfind hn hi hf

/-- A padded integer against a double, an overflowing exponent against an integer, a padded word in
capitals against a truth value, and digits against a text. -/
theorem evaluateAll_matchExpected_texts :
    let texts := [("count", " +007\n"), ("limit", "1e400"), ("open", "\tTrUE "), ("code", "007")]
    let resolve : Resolver := fun _ field => .ok (texts.lookup field)
    evaluateAll .matchExpected
        (some [⟨some "stock", some "count", some ">=", .float (.ofNat 7)⟩]) (some resolve) =
      ⟨true, [("stock", "count")]⟩ ∧
    evaluateAll .matchExpected
        (some [⟨some "stock", some "limit", some "GreaterOrEqual", .int 5⟩]) (some resolve) =
      ⟨false, [("stock", "limit")]⟩ ∧
    evaluateAll .matchExpected
        (some [⟨some "stock", some "open", some "==", .bool true⟩]) (some resolve) =
      ⟨true, [("stock", "open")]⟩ ∧
    evaluateAll .text (some [⟨some "stock", some "code", some "!=", .text "7"⟩]) (some resolve) =
      evaluateAll .matchExpected
        (some [⟨some "stock", some "code", some "!=", .text "7"⟩]) (some resolve) := by
  intro texts resolve
  refine ⟨?_, ?_, ?_, ?_⟩
  · have hc : Condition.Complete ⟨some "stock", some "count", some ">=", .float (.ofNat 7)⟩ := by
      decide
    have hop : (some ">=").bind Operator.find? = some .greaterOrEqual := by decide
    have hr : resolve "stock" "count" = .ok (some " +007\n") := rfl
    obtain ⟨passed, heval, -, -, hnumeric⟩ := evaluateAll_matchExpected hc hop hr
    have hlong : Coercion.LongText " +007\n" 7 := Coercion.readLong?_eq_some_iff.mp (by decide)
    have hpassed := (hnumeric rfl).1 ⟨7, by decide, by decide⟩ hlong
    rw [heval, hpassed]
    decide
  · have hc : Condition.Complete ⟨some "stock", some "limit", some "GreaterOrEqual", .int 5⟩ := by
      decide
    have hop : (some "GreaterOrEqual").bind Operator.find? = some .greaterOrEqual := by decide
    have hr : resolve "stock" "limit" = .ok (some "1e400") := rfl
    obtain ⟨passed, heval, -, -, hnumeric⟩ := evaluateAll_matchExpected hc hop hr
    have hlong : ¬ ∃ i, Coercion.LongText "1e400" i := by
      rintro ⟨i, hi⟩
      have hnone : Coercion.readLong? "1e400" = none := by decide
      rw [Coercion.readLong?_eq_some_iff.mpr hi] at hnone
      cases hnone
    have hfinite : ¬ FiniteText (Text.trimChars "1e400".toList) :=
      readFinite?_eq_none_iff.mp (by decide)
    rw [heval, ((hnumeric rfl).2 hlong hfinite).1 (.inr rfl)]
    rfl
  · have hc : Condition.Complete ⟨some "stock", some "open", some "==", .bool true⟩ := by decide
    have hop : (some "==").bind Operator.find? = some .equal := by decide
    have hr : resolve "stock" "open" = .ok (some "\tTrUE ") := rfl
    obtain ⟨passed, heval, -, hbool, -⟩ := evaluateAll_matchExpected hc hop hr
    have hpassed : passed = true := ((hbool true rfl).1 rfl).mpr (by decide)
    rw [heval, hpassed]
    rfl
  · have hc : Condition.Complete ⟨some "stock", some "code", some "!=", .text "7"⟩ := by decide
    have hop : (some "!=").bind Operator.find? = some .notEqual := by decide
    have hr : resolve "stock" "code" = .ok (some "007") := rfl
    obtain ⟨passed, heval, huntyped, -, -⟩ := evaluateAll_matchExpected hc hop hr
    rw [heval, huntyped (.inr (.inl ⟨"7", rfl⟩))]

end

end StepConditions
