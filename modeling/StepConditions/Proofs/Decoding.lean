import Mathlib
import StepConditions.Proofs.Conjunction

/-!
# Decoding before and during evaluation

A condition list document can be decoded as a whole or element by element as the evaluation reaches
them. Decoding as a whole fails at the first element that is no complete condition. The evaluation
of the document fails then too, at that element or before it; otherwise the two ways agree.
-/
namespace StepConditions

namespace Condition
variable {j : Json} {js : List Json} {c : Condition} {cs : List Condition} {index : ℕ}
  {mode : Coercion} {resolve : Resolver}

/-- The node decodes to a condition with all its names. -/
def Reads (j : Json) (c : Condition) : Prop :=
  decode j = .ok c ∧ c.Complete

lemma decodeAt_eq_ok_iff : decodeAt index j = .ok c ↔ Reads j c := by
  simp only [decodeAt, Reads]
  cases decode j with
  | error e => simp
  | ok d =>
    simp only [map_eq_ok_iff, exists_and_right, ← complete_iff_exists_names, Except.ok.injEq]
    constructor
    · rintro ⟨hd, rfl⟩
      exact ⟨rfl, hd⟩
    · rintro ⟨rfl, hd⟩
      exact ⟨hd, rfl⟩

/-- What is wrong with an element is reported at its index. -/
lemma decodeAt_eq_error {e : Error} (h : decodeAt index j = .error e) :
    ∃ reason, e = .malformedCondition index reason := by
  simp only [decodeAt] at h
  cases hj : decode j with
  | error d =>
    rw [hj] at h
    cases h
    exact ⟨_, rfl⟩
  | ok d =>
    rw [hj] at h
    exact names_eq_error (map_eq_error_iff.mp h)

lemma not_reads_of_error {e : Error} (h : decodeAt index j = .error e) : ¬ ∃ c, Reads j c := by
  rintro ⟨c, hc⟩
  rw [decodeAt_eq_ok_iff.mpr hc] at h
  cases h

lemma decodeFrom_eq_ok_iff : decodeFrom index js = .ok cs ↔ List.Forall₂ Reads js cs := by
  induction js generalizing index cs with
  | nil => cases cs <;> simp [decodeFrom]
  | cons j js ih =>
    rw [decodeFrom]
    cases h : decodeAt index j with
    | error e =>
      simp only [reduceCtorEq, false_iff]
      intro hcs
      cases hcs with
      | cons hc _ => exact not_reads_of_error h ⟨_, hc⟩
    | ok c =>
      have hc := decodeAt_eq_ok_iff.mp h
      simp only [map_eq_ok_iff, ih]
      constructor
      · rintro ⟨ds, hds, rfl⟩
        exact .cons hc hds
      · intro hcs
        cases hcs with
        | @cons _ d _ ds hd hds =>
          -- a node decodes to one condition only
          have hcd : c = d := by simpa [hc.1] using hd.1
          exact ⟨ds, hds, by rw [hcd]⟩

lemma decodeFrom_eq_error {e : Error} (h : decodeFrom index js = .error e) :
    ∃ before j after, js = before ++ j :: after ∧ (∀ x ∈ before, ∃ c, Reads x c) ∧
      decodeAt (index + before.length) j = .error e := by
  induction js generalizing index with
  | nil => cases h
  | cons j js ih =>
    rw [decodeFrom] at h
    cases hj : decodeAt index j with
    | error e' =>
      rw [hj] at h
      cases h
      exact ⟨[], j, js, rfl, by simp, hj⟩
    | ok c =>
      rw [hj] at h
      obtain ⟨before, k, after, rfl, hbefore, hk⟩ := ih (map_eq_error_iff.mp h)
      refine ⟨j :: before, k, after, rfl, ?_, ?_⟩
      · exact List.forall_mem_cons.mpr ⟨⟨c, decodeAt_eq_ok_iff.mp hj⟩, hbefore⟩
      · rwa [List.length_cons, Nat.add_comm before.length, ← Nat.add_assoc]

lemma exists_decodeFrom_eq_ok_iff :
    (∃ cs, decodeFrom index js = .ok cs) ↔ ∀ j ∈ js, ∃ c, Reads j c := by
  constructor
  · rintro ⟨cs, h⟩
    have hcs := decodeFrom_eq_ok_iff.mp h
    clear h
    induction hcs with
    | nil => simp
    | cons hc _ ih => exact List.forall_mem_cons.mpr ⟨⟨_, hc⟩, ih⟩
  · intro h
    cases hjs : decodeFrom index js with
    | ok cs => exact ⟨cs, rfl⟩
    | error e =>
      obtain ⟨before, j, after, rfl, -, hj⟩ := decodeFrom_eq_error hjs
      exact absurd (h j (by simp)) (not_reads_of_error hj)

lemma checkNode_of_reads (h : Reads j c) : checkNode mode resolve j = check mode resolve c := by
  simp [checkNode, h.1]

/-- An element that is no complete condition ends the evaluation without a lookup. -/
lemma checkNode_of_not_reads (h : ¬ ∃ c, Reads j c) : checkNode mode resolve j = .refused := by
  simp only [checkNode]
  cases hj : decode j with
  | error e => rfl
  | ok c => exact check_of_not_complete fun hc => h ⟨c, hj, hc⟩

end Condition

open Condition

variable {mode : Coercion} {resolver : Option Resolver}

lemma evaluateWith_congr {α β : Type} {f : Resolver → α → Outcome} {g : Resolver → β → Outcome}
    {xs : List α} {ys : List β} (h : List.Forall₂ (fun x y => ∀ resolve, f resolve x = g resolve y) xs ys) :
    evaluateWith f resolver xs = evaluateWith g resolver ys := by
  induction h with
  | nil => rfl
  | @cons x y xs ys hxy hs ih =>
    cases resolver with
    | none => rfl
    | some resolve =>
      simp only [evaluateWith_some] at ih ⊢
      rw [Outcome.all, Outcome.all, hxy, ih]

lemma evaluateDocument_of_reads {items : List Json} {cs : List Condition}
    (h : List.Forall₂ Reads items cs) :
    evaluateDocument mode (some (.array items)) resolver = evaluateAll mode (some cs) resolver :=
  evaluateWith_congr (h.imp fun _ _ hc _ => checkNode_of_reads hc)

/-- The elements from one that is no complete condition on add nothing to the lookups. -/
lemma evaluateDocument_of_not_reads {before after : List Json} {j : Json} (h : ¬ ∃ c, Reads j c) :
    evaluateDocument mode (some (.array (before ++ j :: after))) resolver =
      ⟨false, (evaluateDocument mode (some (.array before)) resolver).lookups⟩ := by
  have hj : evaluateWith (checkNode mode) resolver (j :: after) = .refused := by
    cases resolver with
    | none => rfl
    | some resolve => rw [evaluateWith_some, Outcome.all, checkNode_of_not_reads h,
        Outcome.refused_andThen]
  simp only [evaluateDocument, conditionNodes]
  rw [evaluateWith_append, hj, Outcome.andThen_refused]

lemma lookups_of_reads {items : List Json} {l : Lookup}
    (h : l ∈ (evaluateDocument mode (some (.array items)) resolver).lookups) :
    ∃ x ∈ items, ∃ c, Reads x c ∧ l = c.pair := by
  cases resolver with
  | none =>
    cases items <;> simp [evaluateDocument, conditionNodes, evaluateWith, Outcome.vacuous,
      Outcome.refused] at h
  | some resolve =>
    rw [evaluateDocument, evaluateWith_some] at h
    obtain ⟨x, hx, hl⟩ := Outcome.mem_all_lookups h
    by_cases hr : ∃ c, Reads x c
    · obtain ⟨c, hc⟩ := hr
      rw [checkNode_of_reads hc, check_lookups, if_pos hc.2] at hl
      exact ⟨x, hx, c, hc, List.mem_singleton.mp hl⟩
    · simp [checkNode_of_not_reads hr, Outcome.refused] at hl

/-- A condition list decodes as a whole if each element does, and is then evaluated as the decoded
list. If it does not, the error names the first bad element, and the evaluation fails without a
lookup for that element or a later one. A null document is the empty list. -/
theorem decodeList_evaluateDocument (items : List Json) :
    decodeList .null = .ok [] ∧
      (∀ mode resolver, evaluateDocument mode (some .null) resolver =
        evaluateAll mode (some []) resolver) ∧
      ((∃ cs, decodeList (.array items) = .ok cs) ↔ ∀ j ∈ items, ∃ c, Reads j c) ∧
      (∀ cs, decodeList (.array items) = .ok cs → List.Forall₂ Reads items cs ∧
        ∀ mode resolver, evaluateDocument mode (some (.array items)) resolver =
          evaluateAll mode (some cs) resolver) ∧
      (∀ e, decodeList (.array items) = .error e →
        ∃ before j after reason, items = before ++ j :: after ∧
          (∀ x ∈ before, ∃ c, Reads x c) ∧ (¬ ∃ c, Reads j c) ∧
          e = .malformedCondition before.length reason ∧
          ∀ mode resolver, (evaluateDocument mode (some (.array items)) resolver).passed = false ∧
            ∀ l ∈ (evaluateDocument mode (some (.array items)) resolver).lookups,
              ∃ x ∈ before, ∃ c, Reads x c ∧ l = c.pair) := by
  refine ⟨rfl, fun _ _ => rfl, ?_, fun cs h => ?_, fun e h => ?_⟩
  · exact exists_decodeFrom_eq_ok_iff
  · have hcs := decodeFrom_eq_ok_iff.mp h
    exact ⟨hcs, fun _ _ => evaluateDocument_of_reads hcs⟩
  · obtain ⟨before, j, after, rfl, hbefore, hj⟩ := decodeFrom_eq_error h
    have hr := not_reads_of_error hj
    obtain ⟨reason, rfl⟩ := decodeAt_eq_error hj
    refine ⟨before, j, after, reason, rfl, hbefore, hr, by rw [Nat.zero_add], fun mode resolver => ?_⟩
    rw [evaluateDocument_of_not_reads hr]
    exact ⟨rfl, fun l hl => lookups_of_reads hl⟩

end StepConditions
