import Mathlib
import StepConditions.Proofs.Carried
import StepConditions.Proofs.Comparison
import StepConditions.Proofs.Decoding
import StepConditions.Proofs.Shortest
import StepConditions.Proofs.Text
import StepConditions.Store

/-!
# A current value against its own node

A store resolves a field to the text of a node, and a condition may expect that very node. Truth
values, integers of 64 bits and doubles are read again from their text and equal the node then, as
strings do as they are. A carried text has the same characters but never equals a text.
-/
namespace StepConditions
open Numeric

namespace Text
variable {c : Char} {cs : List Char}

lemma isSpace_of_isNumeral (h : isNumeral c = true) : isSpace c = false := by
  simp only [isNumeral, Bool.or_eq_true, beq_iff_eq] at h
  rcases h with (((h | rfl) | rfl) | rfl) | rfl
  · have hc : 48 ≤ c.toNat ∧ c.toNat ≤ 57 := by
      simpa [Char.isDigit, UInt32.le_iff_toNat_le] using h
    simp [isSpace, spaceRanges]
    omega
  all_goals rfl

lemma trimChars_of_isNumeral (h : ∀ c ∈ cs, isNumeral c = true) : trimChars cs = cs :=
  trimChars_of_forall fun c hc => isSpace_of_isNumeral (h c hc)

end Text

namespace Coercion
variable {mode : Coercion} {n : Json} {t : String} {expected : Value}

/-- The nodes that equal their own text under the coercion. -/
def restores : Coercion → Json → Bool
  | _, .string _ => true
  | matchExpected, .bool _ | matchExpected, .number (.float _) => true
  | matchExpected, .number (.whole i) => i.val < 0x8000000000000000
  | _, _ => false

lemma readBool?_print (b : Bool) : readBool? (Json.bool b).print = some b := by
  cases b <;> rfl

lemma readNumber?_intDigits {i : ℤ} (hl : -0x8000000000000000 ≤ i) (hh : i < 0x8000000000000000) :
    readNumber? (String.ofList (intDigits i)) = some (.ofInt i) := by
  have htrim : Text.trimChars (intDigits i) = intDigits i :=
    Text.trimChars_of_isNumeral fun _ => isNumeral_of_mem_intDigits
  have hlong : readLong? (String.ofList (intDigits i)) = some i := by
    simp [readLong?, htrim, readInt?_intDigits, hl, hh]
  simp [readNumber?, hlong]

lemma readNumber?_text {x : Binary64} (hx : x.isFinite = true) :
    readNumber? (String.ofList x.text) = some (.float x) := by
  have htrim : Text.trimChars x.text = x.text :=
    Text.trimChars_of_isNumeral fun _ => isNumeral_of_mem_text hx
  have hlong : readLong? (String.ofList x.text) = none := by
    simp [readLong?, htrim, readInt?_text hx]
  simp [readNumber?, hlong, htrim, readFinite?_text hx]

lemma apply_of_isNumeric (h : expected.isNumeric = true) (t : String) :
    matchExpected.apply t expected = (readNumber? t).getD (.text t) := by
  cases expected with
  | int i => rfl
  | long i => rfl
  | float x => rfl
  | _ => cases h

lemma apply_matchExpected_ofInt (i : ℤ) (t : String) :
    matchExpected.apply t (.ofInt i) = (readNumber? t).getD (.text t) :=
  apply_of_isNumeric (Value.isNumeric_ofInt i) t

lemma apply_of_restores (ht : Store.currentText n = some t) (h : mode.restores n = true) :
    mode.apply t (.ofJson n) = .ofJson n := by
  cases n with
  | string s =>
    cases ht
    cases mode <;> rfl
  | bool b =>
    cases ht
    cases mode with
    | text => cases h
    | matchExpected => simp [apply, Value.ofJson, readBool?_print]
  | number n =>
    cases ht
    rw [Json.print_number]
    cases n with
    | whole i =>
      cases mode with
      | text => cases h
      | matchExpected =>
        have hi : i.val < 0x8000000000000000 := of_decide_eq_true h
        have hvalue : Value.ofJson (.number (.whole i)) = .ofInt i.val := if_pos hi
        rw [hvalue, apply_matchExpected_ofInt, Json.Number.text, readNumber?_intDigits i.low hi]
        rfl
    | float x =>
      cases mode with
      | text => cases h
      | matchExpected =>
        simp [apply, Value.ofJson, Value.ofNumber, Json.Number.text, readNumber?_text x.finite]
  | _ => cases mode <;> cases h

lemma apply_of_not_restores (h : mode.restores n = false) : mode.apply t (.ofJson n) = .text t := by
  cases mode with
  | text => rfl
  | matchExpected =>
    cases n with
    | number n =>
      cases n with
      | whole i =>
        have hi : ¬ i.val < 0x8000000000000000 := by simpa [restores] using h
        simp [apply, Value.ofJson, Value.ofNumber, hi]
      | float x => cases h
    | bool _ | string _ => cases h
    | _ => rfl

lemma isNaN_ofJson (n : Json) : (Value.ofJson n).isNaN = false := by
  cases n with
  | number n =>
    cases n with
    | whole i =>
      simp only [Value.ofJson, Value.ofNumber, Value.ofInt]
      split
      · split <;> rfl
      · rfl
    | float x => exact Binary64.isNaN_of_isFinite x.finite
  | _ => rfl

lemma ofJson_ne_text (h : mode.restores n = false) (t : String) : Value.ofJson n ≠ .text t := by
  cases n with
  | string s => cases mode <;> cases h
  | number n =>
    cases n with
    | whole i =>
      simp only [Value.ofJson, Value.ofNumber, Value.ofInt]
      split
      · split <;> simp
      · simp
    | float x => simp [Value.ofJson, Value.ofNumber]
  | _ => simp [Value.ofJson]

/-- The text of a node equals the node if it is restored from it. -/
lemma equal_apply_currentText (mode : Coercion) (ht : Store.currentText n = some t) :
    (mode.apply t (.ofJson n)).equal (.ofJson n) = mode.restores n := by
  cases h : mode.restores n with
  | true =>
    rw [apply_of_restores ht h]
    exact Value.equal_self (isNaN_ofJson n)
  | false =>
    rw [apply_of_not_restores h, Bool.eq_false_iff, ne_eq, Value.equal_iff_eq (.inl rfl)]
    exact (ofJson_ne_text h t).symm

end Coercion

section
variable {s : Store} {step path : String} {n : Json}

/-- The document of a list of one condition. -/
def singleCondition (step path operator : String) (n : Json) : Json :=
  .array [.object [("stepRef", .string step), ("fieldRef", .string path),
    ("operator", .string operator), ("value", n)]]

lemma not_isBlank_of_getPath? (h : s.getPath? step path = some n) : Text.isBlank path = false := by
  obtain ⟨data, -, hd⟩ := Option.bind_eq_some_iff.mp h
  rw [Json.at?] at hd
  split at hd
  · cases hd
  · simp_all

lemma exists_currentText (h : n ≠ .null) : ∃ t, Store.currentText n = some t := by
  cases n with
  | null => contradiction
  | _ => exact ⟨_, rfl⟩

/-- A list of one condition looks its field up once, and the value that it gets decides. -/
lemma evaluateDocument_singleCondition_of_resolve {mode : Coercion} {resolve : Resolver}
    {operator t : String} (hstep : Text.isBlank step = false) (hpath : Text.isBlank path = false)
    (hop : Text.isBlank operator = false) (hr : resolve step path = .ok (some t))
    (expected : Json) :
    evaluateDocument mode (some (singleCondition step path operator expected)) (some resolve) =
      ⟨Condition.satisfied mode operator (.ofJson expected) t, [(step, path)]⟩ := by
  have hc : Condition.Reads
      (.object [("stepRef", .string step), ("fieldRef", .string path),
        ("operator", .string operator), ("value", expected)])
      ⟨some step, some path, some operator, .ofJson expected⟩ := by
    refine ⟨rfl, ?_⟩
    simp [Condition.Complete, hstep, hpath, hop]
  have hnames : Condition.names ⟨some step, some path, some operator, .ofJson expected⟩ 0 =
      .ok ⟨step, path, operator⟩ := by
    simp [Condition.names_eq_ok_iff, Condition.required_eq_ok_iff, hstep, hpath, hop]
  rw [evaluateDocument, singleCondition, conditionNodes, evaluateWith_some, Outcome.all,
    Condition.checkNode_of_reads hc, Outcome.all, Outcome.andThen_vacuous, Condition.check]
  simp [hnames, hr]

lemma evaluateDocument_singleCondition {mode : Coercion} {operator t : String}
    (hstep : Text.isBlank step = false) (hop : Text.isBlank operator = false)
    (hn : s.getPath? step path = some n) (ht : Store.currentText n = some t) (expected : Json) :
    evaluateDocument mode (some (singleCondition step path operator expected)) (some s.resolver) =
      ⟨Condition.satisfied mode operator (.ofJson expected) t, [(step, path)]⟩ := by
  have hresolve : s.resolver step path = .ok (some t) := by
    simp [Store.resolver, Store.resolve, hn, ht]
  exact evaluateDocument_singleCondition_of_resolve hstep (not_isBlank_of_getPath? hn) hop
    hresolve expected

lemma satisfied_of_not_isOrdering {mode : Coercion} {operator t : String} {op : Operator}
    (hop : Operator.find? operator = some op) (ho : op.isOrdering = false) (expected : Value) :
    Condition.satisfied mode operator expected t = op.holds (mode.apply t expected) expected :=
  Condition.satisfied_eq_holds hop (.inr (.inl ho))

/-- A condition that expects the node which its field has is decided by the kind of the node alone:
equal are strings, and with the kind of the expected value also truth values, doubles and the
integers of 64 bits with a sign; arrays, objects and larger integers never are. -/
theorem evaluateDocument_same_value (hstep : Text.isBlank step = false)
    (hn : s.getPath? step path = some n) (hnull : n ≠ .null) (mode : Coercion) :
    evaluateDocument mode (some (singleCondition step path "==" n)) (some s.resolver) =
        ⟨mode.restores n, [(step, path)]⟩ ∧
      evaluateDocument mode (some (singleCondition step path "!=" n)) (some s.resolver) =
        ⟨!mode.restores n, [(step, path)]⟩ := by
  obtain ⟨t, ht⟩ := exists_currentText hnull
  have hequal := Coercion.equal_apply_currentText mode ht
  rw [evaluateDocument_singleCondition hstep (by decide) hn ht,
    evaluateDocument_singleCondition hstep (by decide) hn ht,
    satisfied_of_not_isOrdering (show Operator.find? "==" = some .equal from rfl) rfl,
    satisfied_of_not_isOrdering (show Operator.find? "!=" = some .notEqual from rfl) rfl]
  simp only [Operator.holds, hequal, and_self]

theorem evaluateDocument_same_value_double :
    let n : Json := .number (.float ⟨⟨false, 0x3FB999999999999A, by decide⟩, by decide⟩)
    let s : Store := ⟨[("quote", .object [("amount", .object [("rate", n)])])]⟩
    evaluateDocument .matchExpected (some (singleCondition "quote" "amount.rate" "==" n))
        (some s.resolver) = ⟨true, [("quote", "amount.rate")]⟩ ∧
      evaluateDocument .text (some (singleCondition "quote" "amount.rate" "!=" n))
        (some s.resolver) = ⟨true, [("quote", "amount.rate")]⟩ := by
  intro n s
  have hn : s.getPath? "quote" "amount.rate" = some n := rfl
  have hnull : n ≠ .null := by simp [n]
  exact ⟨(evaluateDocument_same_value (by decide) hn hnull .matchExpected).1,
    (evaluateDocument_same_value (by decide) hn hnull .text).2⟩

end

end StepConditions
