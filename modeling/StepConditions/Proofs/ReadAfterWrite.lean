import Mathlib
import StepConditions.Proofs.Paths
import StepConditions.Store

/-!
# Reading after an update

A field is recorded under its whole name, while a path is split at its dots. An update is seen by
the paths whose first segment is the field, and by no others: a field with a dot in its name is out
of reach of every path, though not of the access by name.
-/
namespace StepConditions

namespace Store
open Json
variable {s : Store} {step field step' path key : String} {keys : List String} {data value : Json}

lemma data?_setStep (step' : String) :
    (s.setStep step data).data? step' = if step' = step then some data else s.data? step' :=
  getMember?_setMember step data s.steps step'

lemma data?_update (step' : String) :
    (s.update step field value).data? step' =
      if step' = step then some (.object (setMember field value (fieldsOf (s.data? step))))
      else s.data? step' :=
  data?_setStep step'

/-- A step without data and one whose data is no object have no fields alike. -/
lemma get?_eq_getMember? (s : Store) (step field : String) :
    s.get? step field = getMember? field (fieldsOf (s.data? step)) := by
  simp only [Store.get?]
  cases s.data? step with
  | none => rfl
  | some data => cases data <;> rfl

/-- A path enters the step through the field that its first segment names. -/
lemma getPath?_eq_bind (hp : segments path = key :: keys) :
    s.getPath? step path =
      if Text.isBlank path then none else (s.get? step key).bind (follow? keys) := by
  simp only [getPath?, Store.get?, at?, hp, follow?]
  cases s.data? step with
  | none => simp
  | some data => simp

lemma get?_update (step' field' : String) :
    (s.update step field value).get? step' field' =
      if step' = step ∧ field' = field then some value else s.get? step' field' := by
  rw [get?_eq_getMember?, get?_eq_getMember?, data?_update]
  by_cases hs : step' = step
  · subst hs
    simp [fieldsOf, getMember?_setMember]
  · simp [hs]

/-- The paths of the step that begin with the field lead into the new value; all others find what
they found before. -/
lemma getPath?_update (step' path : String) :
    (s.update step field value).getPath? step' path =
      if step' = step ∧ Text.isBlank path = false ∧ (segments path).head? = some field then
        follow? (segments path).tail value
      else s.getPath? step' path := by
  obtain ⟨key, keys, hp⟩ := exists_segments path
  rw [getPath?_eq_bind hp, getPath?_eq_bind hp, get?_update, hp]
  cases Text.isBlank path with
  | true => simp
  | false => by_cases h : step' = step ∧ key = field <;> simp [h]

lemma getPath?_update_of_not
    (h : ¬ (step' = step ∧ Text.isBlank path = false ∧ (segments path).head? = some field)) :
    (s.update step field value).getPath? step' path = s.getPath? step' path := by
  rw [getPath?_update, if_neg h]

/-- No path begins with a key that has a dot in it. -/
lemma head?_segments_ne (hdot : '.' ∈ field.toList) (path : String) :
    (segments path).head? ≠ some field :=
  fun h => dot_notMem_of_mem_segments (List.mem_of_head? h) hdot

/-- The paths of the step that begin with the field find the ends of the chains in the new value
along their other keys, the value itself where there are none. All else reads as it did before,
whatever was recorded for the step. -/
theorem read_after_update (s : Store) (step field : String) (value : Json) :
    (value.wellFormed = true → ∀ path, Text.isBlank path = false →
      (segments path).head? = some field → ∀ n,
        (s.update step field value).getPath? step path = some n ↔
          Chain (segments path).tail value n) ∧
    (∀ path, Text.isBlank path = false → segments path = [field] →
      (s.update step field value).getPath? step path = some value) ∧
    (∀ step' path,
      ¬ (step' = step ∧ Text.isBlank path = false ∧ (segments path).head? = some field) →
        (s.update step field value).getPath? step' path = s.getPath? step' path) ∧
    ('.' ∈ field.toList → ∀ step' path,
      (s.update step field value).getPath? step' path = s.getPath? step' path) ∧
    (∀ step' field', (s.update step field value).get? step' field' =
      if step' = step ∧ field' = field then some value else s.get? step' field') := by
  refine ⟨fun hv path hp hf n => ?_, fun path hp hf => ?_, fun step' path => getPath?_update_of_not,
    fun hdot step' path => ?_, get?_update⟩
  · rw [getPath?_update, if_pos ⟨rfl, hp, hf⟩, follow?_eq_some_iff hv]
  · rw [getPath?_update, if_pos ⟨rfl, hp, by rw [hf, List.head?_cons]⟩, hf]
    rfl
  · exact getPath?_update_of_not fun h => head?_segments_ne hdot path h.2.2

/-- A step that was no object is given up for the field; a dot in a path is no dot in a name. -/
theorem read_after_update_null_inside :
    let s := Store.empty.setStep "raw" (.string "x")
    let value : Json := .object [("b", .null)]
    (value.wellFormed = true ∧ Text.isBlank "a.b" = false ∧ (segments "a.b").head? = some "a" ∧
      (s.update "raw" "a" value).getPath? "raw" "a.b" = some .null) ∧
    (segments "a" = ["a"] ∧ (s.update "raw" "a" value).getPath? "raw" "a" = some value) ∧
    ((s.update "raw" "a" value).getPath? "raw" "b" = s.getPath? "raw" "b") ∧
    ('.' ∈ "a.b".toList ∧ (s.update "raw" "a.b" value).getPath? "raw" "a.b" = none ∧
      (s.update "raw" "a.b" value).get? "raw" "a.b" = some value) := by
  intro s value
  obtain ⟨hnode, hvalue, hother, -, -⟩ := read_after_update s "raw" "a" value
  obtain ⟨-, -, -, hdot, hname⟩ := read_after_update s "raw" "a.b" value
  have hchain : Chain ["b"] value .null := .into (.head _) (.here .null)
  refine ⟨⟨by decide, by decide, by decide, ?_⟩, ⟨by decide, hvalue "a" (by decide) (by decide)⟩,
    hother "raw" "b" (by decide), by decide, ?_, ?_⟩
  · exact (hnode (by decide) "a.b" (by decide) (by decide) .null).mpr hchain
  · rw [hdot (by decide)]
    rfl
  · rw [hname, if_pos ⟨rfl, rfl⟩]

end Store

end StepConditions
