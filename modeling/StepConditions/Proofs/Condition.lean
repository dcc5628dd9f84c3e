import Mathlib
import StepConditions.Evaluation
import StepConditions.Proofs.Except

/-!
# When a condition holds

`Complete` and `Holds` say what a condition asks of its names and of the current values without
running the check. The check passes exactly the conditions that hold, and it makes its one lookup
exactly when the names are complete, whatever comes of that lookup.
-/
namespace StepConditions.Condition

/-- The step and field that a condition looks up; meant for one that has both. -/
def pair (c : Condition) : Lookup :=
  (c.step.getD "", c.field.getD "")

/-- All three names are there and none is blank. -/
def Complete (c : Condition) : Prop :=
  ∀ name ∈ [c.step, c.field, c.operator], name.any fun s => !Text.isBlank s

instance (c : Condition) : Decidable c.Complete :=
  inferInstanceAs (Decidable (∀ name ∈ [c.step, c.field, c.operator], _))

/-- The operator holds, and an ordering against a number is not decided by anything else than a
number when values are read again as the expected kind. -/
def Satisfies (mode : Coercion) (op : Operator) (current expected : Value) : Prop :=
  op.holds current expected = true ∧
    (mode = .matchExpected → op.isOrdering = true → expected.isNumeric = true →
      current.isNumeric = true)

/-- The names are complete, the field has a text, and the value of that text satisfies the operator
that the condition names. -/
def Holds (mode : Coercion) (resolve : Resolver) (c : Condition) : Prop :=
  c.Complete ∧ ∃ resolved op, resolve c.pair.1 c.pair.2 = .ok (some resolved) ∧
    c.operator.bind Operator.find? = some op ∧
    Satisfies mode op (mode.apply resolved c.expected) c.expected

variable {c : Condition} {mode : Coercion} {resolve : Resolver} {index : ℕ} {operator t : String}
  {op : Operator} {expected : Value}

lemma required_eq_ok_iff {key s : String} {name : Option String} :
    required index key name = .ok s ↔ name = some s ∧ Text.isBlank s = false := by
  cases name with
  | none => simp [required]
  | some t =>
    cases h : Text.isBlank t with
    | true =>
      simp only [required, h, if_true, reduceCtorEq, Option.some.injEq, false_iff]
      rintro ⟨rfl, hs⟩
      simp [h] at hs
    | false =>
      simp only [required, h, Bool.false_eq_true, if_false, Except.ok.injEq, Option.some.injEq]
      constructor
      · rintro rfl
        exact ⟨rfl, h⟩
      · exact And.left

lemma required_eq_error {key : String} {name : Option String} {e : Error}
    (h : required index key name = .error e) : ∃ reason, e = .malformedCondition index reason := by
  cases name with
  | none =>
    cases h
    exact ⟨_, rfl⟩
  | some t =>
    simp only [required] at h
    split at h
    · cases h
      exact ⟨_, rfl⟩
    · cases h

lemma names_eq_ok_iff {n : Names} :
    c.names index = .ok n ↔ required index "stepRef" c.step = .ok n.step ∧
      required index "fieldRef" c.field = .ok n.field ∧
      required index "operator" c.operator = .ok n.operator := by
  simp only [names, bind_eq_ok_iff, Except.ok.injEq]
  constructor
  · rintro ⟨step, hs, field, hf, operator, ho, rfl⟩
    exact ⟨hs, hf, ho⟩
  · rintro ⟨hs, hf, ho⟩
    exact ⟨_, hs, _, hf, _, ho, rfl⟩

/-- Whatever is amiss with the names is reported at the index of the condition. -/
lemma names_eq_error {e : Error} (h : c.names index = .error e) :
    ∃ reason, e = .malformedCondition index reason := by
  simp only [names, bind_eq_error_iff] at h
  rcases h with hs | ⟨_, -, hf | ⟨_, -, ho | ⟨_, -, h⟩⟩⟩
  · exact required_eq_error hs
  · exact required_eq_error hf
  · exact required_eq_error ho
  · cases h

lemma complete_iff_exists_names (index : ℕ) : c.Complete ↔ ∃ n, c.names index = .ok n := by
  simp only [names_eq_ok_iff, required_eq_ok_iff, Complete, List.forall_mem_cons,
    Option.any_eq_true, Bool.not_eq_true', List.not_mem_nil, false_imp_iff, implies_true, and_true]
  constructor
  · rintro ⟨⟨s, hs, hs'⟩, ⟨f, hf, hf'⟩, o, ho, ho'⟩
    exact ⟨⟨s, f, o⟩, ⟨hs, hs'⟩, ⟨hf, hf'⟩, ho, ho'⟩
  · rintro ⟨n, hs, hf, ho⟩
    exact ⟨⟨_, hs⟩, ⟨_, hf⟩, ⟨_, ho⟩⟩

lemma names_eq_error_of_not_complete (index : ℕ) (h : ¬ c.Complete) :
    ∃ reason, c.names index = .error (.malformedCondition index reason) := by
  cases hn : c.names index with
  | error e =>
    obtain ⟨reason, rfl⟩ := names_eq_error hn
    exact ⟨reason, rfl⟩
  | ok n => exact absurd ((complete_iff_exists_names index).mpr ⟨n, hn⟩) h

/-- The names that the check works with are the ones of the condition. -/
lemma pair_of_names {n : Names} (h : c.names index = .ok n) :
    c.pair = (n.step, n.field) ∧ c.operator = some n.operator := by
  simp only [names_eq_ok_iff, required_eq_ok_iff] at h
  simp [pair, h.1.1, h.2.1.1, h.2.2.1]

lemma satisfied_eq_true_iff {operator resolved : String} {expected : Value} :
    satisfied mode operator expected resolved = true ↔
      ∃ op, Operator.find? operator = some op ∧
        Satisfies mode op (mode.apply resolved expected) expected := by
  simp only [satisfied, unorderable, Operator.evaluate, Option.bind_some, Satisfies]
  cases Operator.find? operator with
  | none => simp
  | some op =>
    simp only [Option.any_some, Bool.and_eq_true, Bool.not_eq_true', Bool.and_eq_false_iff,
      beq_eq_false_iff_ne, Bool.not_eq_false', Option.some.injEq, exists_eq_left']
    rw [and_comm]
    refine and_congr_right fun _ => ?_
    cases op.isOrdering <;> cases expected.isNumeric <;> simp [imp_iff_not_or]

/-- Unless a number is to be ordered beside something else, the operator alone decides. -/
lemma satisfied_eq_holds (hop : Operator.find? operator = some op)
    (h : mode = .text ∨ op.isOrdering = false ∨ expected.isNumeric = false ∨
      (mode.apply t expected).isNumeric = true) :
    satisfied mode operator expected t = op.holds (mode.apply t expected) expected := by
  have horderable : unorderable mode operator (mode.apply t expected) expected = false := by
    rcases h with h | h | h | h <;> simp [unorderable, hop, h]
  simp [satisfied, horderable, Operator.evaluate, hop]

lemma satisfied_of_unorderable (hop : Operator.find? operator = some op)
    (ho : op.isOrdering = true) (he : expected.isNumeric = true)
    (hc : (Coercion.matchExpected.apply t expected).isNumeric = false) :
    satisfied .matchExpected operator expected t = false := by
  simp [satisfied, unorderable, hop, ho, he, hc]

lemma check_of_not_complete (h : ¬ c.Complete) : check mode resolve c = .refused := by
  obtain ⟨reason, hn⟩ := names_eq_error_of_not_complete 0 h
  simp [check, hn]

lemma check_lookups :
    (check mode resolve c).lookups = if c.Complete then [c.pair] else [] := by
  by_cases h : c.Complete
  · obtain ⟨n, hn⟩ := (complete_iff_exists_names 0).mp h
    rw [if_pos h, (pair_of_names hn).1]
    simp only [check, hn]
    split <;> rfl
  · rw [if_neg h, check_of_not_complete h]
    rfl

lemma check_passed_iff : (check mode resolve c).passed = true ↔ c.Holds mode resolve := by
  by_cases h : c.Complete
  · obtain ⟨n, hn⟩ := (complete_iff_exists_names 0).mp h
    obtain ⟨hp, ho⟩ := pair_of_names hn
    simp only [check, hn, Holds, h, hp, ho, true_and, Option.bind_some]
    split
    next resolved hr => simp [hr, satisfied_eq_true_iff]
    next hr =>
      simp only [Bool.false_eq_true, false_iff]
      rintro ⟨resolved, op, h, -⟩
      exact hr resolved h
  · simp [check_of_not_complete h, Holds, h, Outcome.refused]

end StepConditions.Condition
