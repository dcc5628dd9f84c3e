import Mathlib
import StepConditions.Proofs.Decoding
import StepConditions.Proofs.StoreRun

/-!
# What an evaluation depends on

An evaluation learns of the current values by its lookups alone: two sources that give the same
answers to these come to the same result by the same lookups. For stores it follows that only the
answers for the steps and fields of complete conditions matter, so changes out of their reach are
not noticed.
-/
namespace StepConditions
open Condition
variable {mode : Coercion} {r r' : Resolver} {document : Option Json} {j : Json}

/-- The two sources answer these lookups alike. -/
def AgreeOn (r r' : Resolver) (ls : List Lookup) : Prop :=
  ∀ l ∈ ls, r l.1 l.2 = r' l.1 l.2

lemma agreeOn_append {ls ms : List Lookup} :
    AgreeOn r r' (ls ++ ms) ↔ AgreeOn r r' ls ∧ AgreeOn r r' ms :=
  List.forall_mem_append

lemma check_congr {c : Condition} (h : AgreeOn r r' (check mode r c).lookups) :
    check mode r c = check mode r' c := by
  by_cases hc : c.Complete
  · rw [check_lookups, if_pos hc] at h
    obtain ⟨n, hn⟩ := (complete_iff_exists_names 0).mp hc
    have hr : r n.step n.field = r' n.step n.field := by
      have := h c.pair (List.mem_singleton_self _)
      rwa [(pair_of_names hn).1] at this
    simp only [check, hn, hr]
  · rw [check_of_not_complete hc, check_of_not_complete hc]

lemma checkNode_congr (h : AgreeOn r r' (checkNode mode r j).lookups) :
    checkNode mode r j = checkNode mode r' j := by
  simp only [checkNode] at h ⊢
  cases hj : decode j with
  | error e => rfl
  | ok c =>
    rw [hj] at h
    exact check_congr h

lemma Outcome.all_congr {α : Type} {f g : α → Outcome} {xs : List α}
    (hfg : ∀ x ∈ xs, AgreeOn r r' (f x).lookups → f x = g x)
    (h : AgreeOn r r' (all f xs).lookups) : all f xs = all g xs := by
  induction xs with
  | nil => rfl
  | cons x xs ih =>
    obtain ⟨hx, hxs⟩ := List.forall_mem_cons.mp hfg
    rw [all] at h
    rw [all, all]
    cases hp : (f x).passed with
    | false =>
      rw [andThen_of_not_passed hp] at h
      rw [← hx h, andThen_of_not_passed hp, andThen_of_not_passed hp]
    | true =>
      rw [andThen_of_passed hp, agreeOn_append] at h
      rw [← hx h.1, ih hxs h.2]

/-- Sources that agree on the lookups made with one of them cannot be told apart. -/
theorem evaluateDocument_congr
    (h : AgreeOn r r' (evaluateDocument mode document (some r)).lookups) :
    evaluateDocument mode document (some r) = evaluateDocument mode document (some r') := by
  simp only [evaluateDocument, evaluateWith_some] at h ⊢
  exact Outcome.all_congr (fun _ _ => checkNode_congr) h

/-- The step and field of a complete condition of the document. -/
def Names (document : Option Json) (l : Lookup) : Prop :=
  ∃ j ∈ conditionNodes document, ∃ c, Reads j c ∧ l = c.pair

lemma names_of_mem_lookups {resolver : Option Resolver} {l : Lookup}
    (h : l ∈ (evaluateDocument mode document resolver).lookups) : Names document l := by
  have hitems : l ∈ (evaluateDocument mode (some (.array (conditionNodes document))) resolver).lookups :=
    h
  exact lookups_of_reads hitems

namespace Store
open Json
variable {s t : Store} {step field step' path : String} {value : Json} {c : Change}

lemma resolve_update_of_not (h : ¬ (step' = step ∧ (segments path).head? = some field)) :
    (s.update step field value).resolve step' path = s.resolve step' path := by
  rw [resolve, getPath?_update_of_not fun ⟨hs, _, hf⟩ => h ⟨hs, hf⟩]
  rfl

lemma resolve_apply_of_ne (h : step' ≠ c.step) :
    (c.apply s).resolve step' path = s.resolve step' path := by
  simp only [resolve, getPath?, data?_apply_of_ne h]

lemma evaluateDocument_congr_store
    (h : ∀ l, Names document l → s.resolve l.1 l.2 = t.resolve l.1 l.2) :
    evaluateDocument mode document (some s.resolver) =
      evaluateDocument mode document (some t.resolver) := by
  apply evaluateDocument_congr
  intro l hl
  simp only [resolver, h l (names_of_mem_lookups hl)]

/-- Only what the complete conditions of a document name is looked at. Stores that resolve these
fields alike give the same result by the same lookups; so do a store and what it becomes by an
update of another field or by any change of a step that is not named. -/
theorem evaluateDocument_depends_on_names (mode : Coercion) (document : Option Json) :
    (∀ s t : Store, (∀ l, Names document l → s.resolve l.1 l.2 = t.resolve l.1 l.2) →
      evaluateDocument mode document (some s.resolver) =
        evaluateDocument mode document (some t.resolver)) ∧
    (∀ (s : Store) step field value,
      (∀ l, Names document l → ¬ (l.1 = step ∧ (segments l.2).head? = some field)) →
      evaluateDocument mode document (some (s.update step field value).resolver) =
        evaluateDocument mode document (some s.resolver)) ∧
    (∀ (s : Store) (c : Change), (∀ l, Names document l → l.1 ≠ c.step) →
      evaluateDocument mode document (some (c.apply s).resolver) =
        evaluateDocument mode document (some s.resolver)) := by
  refine ⟨fun s t h => evaluateDocument_congr_store h, fun s step field value h => ?_,
    fun s c h => ?_⟩
  · exact evaluateDocument_congr_store fun l hl => resolve_update_of_not (h l hl)
  · exact evaluateDocument_congr_store fun l hl => resolve_apply_of_ne (h l hl)

/-- An update that gives up the data of a step which is no object, and a merge that fails. -/
theorem evaluateDocument_depends_on_names_review :
    let document := some (.array [.object [("stepRef", .string "review"),
      ("fieldRef", .string "result.code"), ("operator", .string "=="), ("value", .string "ok")],
      .string "no condition"])
    let s : Store := ⟨[("review", .array []), ("quote", .null)]⟩
    evaluateDocument .text document (some (s.update "review" "code" .null).resolver) =
        ⟨false, [("review", "result.code")]⟩ ∧
      evaluateDocument .text document
        (some ((Change.merge "quote" (.object [])).apply s).resolver) =
          ⟨false, [("review", "result.code")]⟩ := by
  intro document s
  have hnames : ∀ l, Names document l → l = ("review", "result.code") := by
    rintro l ⟨j, hj, c, ⟨hc, -⟩, rfl⟩
    rcases List.mem_cons.mp hj with rfl | hj
    · cases hc
      rfl
    · rw [List.mem_singleton.mp hj] at hc
      cases hc
  have hdepends := evaluateDocument_depends_on_names .text document
  constructor
  · rw [hdepends.2.1 s "review" "code" .null fun l hl => by rw [hnames l hl]; decide]
    decide
  · rw [hdepends.2.2 s (.merge "quote" (.object [])) fun l hl => by rw [hnames l hl]; decide]
    decide

end Store

end StepConditions
