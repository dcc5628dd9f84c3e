import Mathlib
import StepConditions.Proofs.Carried
import StepConditions.Proofs.Paths
import StepConditions.Proofs.StoreRun

/-!
# Stores loaded from documents

A document is loaded if it is an object of objects, and the first step whose data is something else
is reported otherwise. A loaded store reads as its document does: the name of a step goes in front
of the path, and what a field resolves to is the text of the value at its path.
-/
namespace StepConditions
open Json Numeric

namespace Value
variable {i : ℤ} {v : Value}

lemma asText_of_int? (h : v.int? = some i) : v.asText = String.ofList (intDigits i) := by
  cases v <;> simp_all [int?, asText]

lemma isNull_of_int? (h : v.int? = some i) : v.isNull = false := by
  cases v <;> simp_all [int?, isNull]

end Value

namespace Store
variable {s : Store} {d : Json} {ms : List (String × Json)} {e : Error} {step path x : String}

lemma addSteps_eq_error_iff : s.addSteps ms = .error e ↔
    ∃ m, ms.find? (fun m => !m.2.isObject) = some m ∧
      e = .invalidArgument ("data for step '" ++ m.1 ++ "' must be an object") := by
  induction ms generalizing s with
  | nil => simp [addSteps]
  | cons m ms ih =>
    cases hm : m.2.isObject with
    | true => simp [addSteps, hm, ih]
    | false => simp [addSteps, hm, eq_comm]

lemma exists_ofJson_eq_ok_iff :
    (∃ s, ofJson d = .ok s) ↔ ∃ ms, d = .object ms ∧ ∀ m ∈ ms, m.2.isObject = true := by
  constructor
  · rintro ⟨s, h⟩
    obtain ⟨ms, hd, hm, -⟩ := exists_of_ofJson_eq_ok h
    exact ⟨ms, hd, hm⟩
  · rintro ⟨ms, rfl, hm⟩
    exact ⟨_, ofJson_object_eq_ok_iff.mpr ⟨hm, rfl⟩⟩

lemma data?_of_ofJson (hd : d.wellFormed = true) (h : ofJson d = .ok s) (step : String) :
    s.data? step = d.get? step := by
  obtain ⟨ms, rfl, -, rfl⟩ := exists_of_ofJson_eq_ok h
  have hset : setMembers [] ms = ms := setMembers_of_nodup (wellFormed_object.mp hd).1
  rw [hset]
  rfl

/-- A node has a current value unless it is null, and that is the text of its value. -/
lemma currentText_eq (n : Json) :
    currentText n = if (Value.ofJson n).isNull then none else some (Value.ofJson n).asText := by
  cases n with
  | bool b => cases b <;> rfl
  | number n =>
    have htext : currentText (number n) = some (String.ofList n.text) :=
      congrArg some (print_number n)
    rw [htext]
    cases n with
    | float x => rfl
    | whole i =>
      rw [Value.ofJson, Value.ofNumber]
      split
      next hi =>
        have hint := Value.int?_ofInt i.low hi
        simp [Value.isNull_of_int? hint, Value.asText_of_int? hint, Number.text]
      next => rfl
  | _ => rfl

lemma resolve_eq_some_iff : s.resolve step path = some x ↔
    ∃ v, Value.atPath? (s.data? step) path = some v ∧ v.isNull = false ∧ v.asText = x := by
  have hvalue : Value.atPath? (s.data? step) path = (s.getPath? step path).map Value.ofJson := rfl
  rw [resolve, hvalue]
  cases s.getPath? step path with
  | none => simp
  | some n => simp [currentText_eq]

/-- When a document is loaded, what is reported otherwise, and what is read from the store. -/
theorem ofJson_faithful (hd : d.wellFormed = true) :
    ((∃ s, ofJson d = .ok s) ↔ ∃ ms, d = .object ms ∧ ∀ m ∈ ms, m.2.isObject = true) ∧
    (∀ ms e, d = .object ms → (ofJson d = .error e ↔
      ∃ m, ms.find? (fun m => !m.2.isObject) = some m ∧
        e = .invalidArgument ("data for step '" ++ m.1 ++ "' must be an object"))) ∧
    (d.isObject = false →
      ofJson d = .error (.invalidArgument "step data must be an object keyed by step")) ∧
    (∀ s, ofJson d = .ok s →
      (∀ step, s.data? step = d.get? step) ∧
      (∀ step path, '.' ∉ step.toList → Text.isBlank path = false →
        s.getPath? step path = d.at? (step ++ "." ++ path)) ∧
      (∀ step path, ∃ answer, s.resolver step path = .ok answer ∧
        ∀ x, answer = some x ↔ ∃ v, Value.atPath? (s.data? step) path = some v ∧
          v.isNull = false ∧ v.asText = x)) := by
  refine ⟨exists_ofJson_eq_ok_iff, ?_, ?_, ?_⟩
  · rintro ms e rfl
    exact addSteps_eq_error_iff
  · intro hobject
    cases d with
    | object ms => cases hobject
    | _ => rfl
  · intro s hs
    have hdata := data?_of_ofJson hd hs
    refine ⟨hdata, fun step path hstep hpath => ?_, fun step path => ?_⟩
    · rw [getPath?, hdata, at?_dot_of_dot_notMem hstep hpath]
    · exact ⟨s.resolve step path, rfl, fun x => resolve_eq_some_iff⟩

/-- A step without a name, keys with dots that no path reaches, and data that is not loaded. -/
theorem ofJson_faithful_nameless_step :
    let fields := object [("b.c", bool false), ("b", object [("", bool true)])]
    let d := object [("", fields), ("a.b", object [])]
    (∃ s, ofJson d = .ok s ∧ s.getPath? "" "b." = d.at? (("" : String) ++ "." ++ "b.") ∧
      s.data? "" = some fields) ∧
    ofJson (object [("", fields), ("x", null), ("y", array [])]) =
      .error (.invalidArgument "data for step 'x' must be an object") := by
  intro fields d
  have h := ofJson_faithful (show d.wellFormed = true by decide)
  obtain ⟨s, hs⟩ := h.1.mpr ⟨_, rfl, by decide⟩
  refine ⟨⟨s, hs, (h.2.2.2 s hs).2.1 "" "b." (by decide) (by decide), (h.2.2.2 s hs).1 ""⟩, ?_⟩
  have hbad := ofJson_faithful
    (show (object [("", fields), ("x", null), ("y", array [])]).wellFormed = true by decide)
  exact (hbad.2.1 _ _ rfl).mpr ⟨("x", null), rfl, rfl⟩

end Store

end StepConditions
