import Mathlib
import StepConditions.Proofs.Condition

/-!
# Ordered conjunctions

Evaluation takes conditions in order and stops at the first that does not hold. `Decided` says what
comes of that and which lookups are made, without the recursion. The result depends on the set of
the conditions alone; the lookups depend on their order.
-/
namespace StepConditions

namespace Outcome
variable {α : Type} {f : α → Outcome} {a b c : Outcome}

lemma andThen_of_passed (h : a.passed = true) : a.andThen b = ⟨b.passed, a.lookups ++ b.lookups⟩ := by
  simp [andThen, h]

lemma andThen_of_not_passed (h : a.passed = false) : a.andThen b = a := by
  simp [andThen, h]

@[simp] lemma vacuous_andThen : vacuous.andThen b = b := rfl

@[simp] lemma refused_andThen : refused.andThen b = refused := rfl

@[simp] lemma andThen_vacuous : a.andThen vacuous = a := by
  obtain ⟨passed, lookups⟩ := a
  cases passed <;> simp [andThen, vacuous]

lemma andThen_refused : a.andThen refused = ⟨false, a.lookups⟩ := by
  obtain ⟨passed, lookups⟩ := a
  cases passed <;> simp [andThen, refused]

lemma andThen_passed : (a.andThen b).passed = (a.passed && b.passed) := by
  cases h : a.passed <;> simp [andThen, h]

lemma andThen_assoc : (a.andThen b).andThen c = a.andThen (b.andThen c) := by
  cases ha : a.passed with
  | false => simp only [andThen_of_not_passed ha]
  | true => cases hb : b.passed <;> simp [andThen, ha, hb]

lemma all_append (xs ys : List α) : all f (xs ++ ys) = (all f xs).andThen (all f ys) := by
  induction xs with
  | nil => rfl
  | cons x xs ih => simp [all, ih, andThen_assoc]

lemma all_passed_iff {xs : List α} :
    (all f xs).passed = true ↔ ∀ x ∈ xs, (f x).passed = true := by
  induction xs with
  | nil => simp [all, vacuous]
  | cons x xs ih => simp [all, andThen_passed, ih]

/-- Nothing is looked up but for some element. -/
lemma mem_all_lookups {xs : List α} {l : Lookup} (h : l ∈ (all f xs).lookups) :
    ∃ x ∈ xs, l ∈ (f x).lookups := by
  induction xs with
  | nil => simp [all, vacuous] at h
  | cons x xs ih =>
    rw [all] at h
    cases hx : (f x).passed with
    | false =>
      rw [andThen_of_not_passed hx] at h
      exact ⟨x, by simp, h⟩
    | true =>
      rw [andThen_of_passed hx, List.mem_append] at h
      rcases h with h | h
      · exact ⟨x, by simp, h⟩
      · obtain ⟨y, hy, hl⟩ := ih h
        exact ⟨y, by simp [hy], hl⟩

end Outcome

section
variable {α : Type} {f : Resolver → α → Outcome}

@[simp] lemma evaluateWith_nil (resolver : Option Resolver) :
    evaluateWith f resolver [] = .vacuous := rfl

lemma evaluateWith_some (resolve : Resolver) (xs : List α) :
    evaluateWith f (some resolve) xs = .all (f resolve) xs := by
  cases xs <;> rfl

lemma evaluateWith_none {xs : List α} (h : xs ≠ []) : evaluateWith f none xs = .refused := by
  cases xs with
  | nil => contradiction
  | cons x xs => rfl

lemma evaluateWith_append (resolver : Option Resolver) (xs ys : List α) :
    evaluateWith f resolver (xs ++ ys) =
      (evaluateWith f resolver xs).andThen (evaluateWith f resolver ys) := by
  cases resolver with
  | some resolve => simp only [evaluateWith_some, Outcome.all_append]
  | none =>
    by_cases hx : xs = []
    · simp [hx]
    · rw [evaluateWith_none hx, evaluateWith_none (by simp [hx]), Outcome.refused_andThen]

lemma evaluateWith_passed_iff {resolver : Option Resolver} {xs : List α} :
    (evaluateWith f resolver xs).passed = true ↔
      ∀ x ∈ xs, ∃ resolve, resolver = some resolve ∧ (f resolve x).passed = true := by
  cases resolver with
  | some resolve => simp [evaluateWith_some, Outcome.all_passed_iff]
  | none =>
    cases xs with
    | nil => simp [Outcome.vacuous]
    | cons x xs =>
      rw [evaluateWith_none (List.cons_ne_nil x xs), List.forall_mem_cons]
      simp [Outcome.refused]

end

/-- What a list of conditions comes to. Either all of them hold and each was looked up, or there is
a first one that does not; that one was looked up if its names are complete, and none after it. -/
inductive Decided (mode : Coercion) (resolve : Resolver) : List Condition → Outcome → Prop
  | passed {cs : List Condition} (holds : ∀ c ∈ cs, c.Holds mode resolve) :
      Decided mode resolve cs ⟨true, cs.map Condition.pair⟩
  | stopped {before after : List Condition} {c : Condition}
      (holds : ∀ b ∈ before, b.Holds mode resolve) (fails : ¬ c.Holds mode resolve) :
      Decided mode resolve (before ++ c :: after)
        ⟨false, before.map Condition.pair ++ if c.Complete then [c.pair] else []⟩

namespace Decided
variable {mode : Coercion} {resolve : Resolver} {c : Condition} {cs : List Condition} {o : Outcome}

/-- One more condition that holds goes in front with its lookup. -/
lemma cons (hc : c.Holds mode resolve) (h : Decided mode resolve cs o) :
    Decided mode resolve (c :: cs) ⟨o.passed, c.pair :: o.lookups⟩ := by
  cases h with
  | passed holds => exact .passed (List.forall_mem_cons.mpr ⟨hc, holds⟩)
  | @stopped before after d holds fails =>
    have hb : ∀ b ∈ c :: before, b.Holds mode resolve := List.forall_mem_cons.mpr ⟨hc, holds⟩
    exact .stopped hb fails

lemma all_check (mode : Coercion) (resolve : Resolver) (cs : List Condition) :
    Decided mode resolve cs (.all (Condition.check mode resolve) cs) := by
  induction cs with
  | nil => exact .passed (by simp)
  | cons c cs ih =>
    rw [Outcome.all]
    by_cases hc : c.Holds mode resolve
    · rw [Outcome.andThen_of_passed (Condition.check_passed_iff.mpr hc), Condition.check_lookups,
        if_pos hc.1]
      exact ih.cons hc
    · have hp : (c.check mode resolve).passed = false :=
        Bool.eq_false_iff.mpr fun h => hc (Condition.check_passed_iff.mp h)
      rw [Outcome.andThen_of_not_passed hp]
      have h : Decided mode resolve ([] ++ c :: cs) ⟨false, if c.Complete then [c.pair] else []⟩ :=
        .stopped (by simp) hc
      rwa [List.nil_append, ← Condition.check_lookups, ← hp] at h

end Decided

lemma evaluateAll_passed_iff {mode : Coercion} {resolver : Option Resolver} {cs : List Condition} :
    (evaluateAll mode (some cs) resolver).passed = true ↔
      ∀ c ∈ cs, ∃ resolve, resolver = some resolve ∧ c.Holds mode resolve := by
  simp [evaluateAll, evaluateWith_passed_iff, Condition.check_passed_iff]

/-- Evaluation of typed conditions: the result and the lookups in every case. Lists with the same
conditions in any order and number come to the same result, and a list in two parts is the
conjunction of the parts. -/
theorem evaluateAll_correct (mode : Coercion) (resolver : Option Resolver)
    (cs ds : List Condition) :
    evaluateAll mode none resolver = ⟨true, []⟩ ∧
      evaluateAll mode (some []) resolver = ⟨true, []⟩ ∧
      (cs ≠ [] → evaluateAll mode (some cs) none = ⟨false, []⟩) ∧
      (∀ resolve, Decided mode resolve cs (evaluateAll mode (some cs) (some resolve)) ∧
        ((evaluateAll mode (some cs) (some resolve)).passed = true ↔
          ∀ c ∈ cs, c.Holds mode resolve)) ∧
      ((∀ c, c ∈ cs ↔ c ∈ ds) →
        (evaluateAll mode (some cs) resolver).passed =
          (evaluateAll mode (some ds) resolver).passed) ∧
      evaluateAll mode (some (cs ++ ds)) resolver =
        (evaluateAll mode (some cs) resolver).andThen (evaluateAll mode (some ds) resolver) := by
  refine ⟨rfl, rfl, evaluateWith_none, fun resolve => ⟨?_, ?_⟩, fun h => ?_, ?_⟩
  · have h := Decided.all_check mode resolve cs
    rwa [← evaluateWith_some] at h
  · simp [evaluateAll_passed_iff]
  · rw [Bool.eq_iff_iff, evaluateAll_passed_iff, evaluateAll_passed_iff]
    simp only [h]
  · exact evaluateWith_append resolver cs ds

/-- The field of the second condition is not looked up. -/
example : evaluateAll .text
    (some [⟨some "step1", some "status", some "equals", .text "APPROVED"⟩,
      ⟨some "step1", some "name", some "equals", .text "John"⟩])
    (some fun _ _ => .ok (some "REJECTED")) = ⟨false, [("step1", "status")]⟩ := by
  decide

end StepConditions
