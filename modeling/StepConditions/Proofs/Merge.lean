import Mathlib
import StepConditions.Proofs.StoreRun

/-!
# Merging objects into steps

A merge either records all fields of an object, as updates in turn would, or leaves the store as it
was, although the step is entered before its data is looked at. Merges in turn are one merge of the
objects laid over each other.
-/
namespace StepConditions.Store
open Json
variable {s s' : Store} {step : String} {data value : Json} {new : List (String × Json)}

/-- Enters an object without fields for a step that has no data. -/
def enter (s : Store) (step : String) : Store :=
  if (s.data? step).isNone then s.setStep step (.object []) else s

/-- A merge as it changes the store itself, with what it reports: the step is entered first, and
the fields are put into the object found there. -/
def mergeInPlace (s : Store) (step : String) : Json → Except Error Unit × Store
  | .object new =>
    match (s.enter step).data? step with
    | some (.object fields) =>
      (.ok (), (s.enter step).setStep step (.object (setMembers fields new)))
    | _ =>
      (.error (.invalidArgument ("data for step '" ++ step ++ "' is not an object")), s.enter step)
  | _ => (.error (.invalidArgument ("merge into step '" ++ step ++ "' requires an object")), s)

/-- The updates that record members of an object one after the other. -/
def updates (step : String) (new : List (String × Json)) : List Change :=
  new.map fun m => .update step m.1 m.2

/-- The step has no data yet, or an object. -/
def Mergeable (s : Store) (step : String) : Prop :=
  ∀ data, s.data? step = some data → data.isObject = true

lemma setStep_setStep (data' : Json) :
    (s.setStep step data').setStep step data = s.setStep step data :=
  congrArg Store.mk (setMember_setMember data')

lemma setStep_of_data? (h : s.data? step = some data) : s.setStep step data = s :=
  congrArg Store.mk (setMember_of_getMember? h)

lemma merge_of_mergeable (h : s.Mergeable step) (new : List (String × Json)) :
    s.merge step (.object new) =
      .ok (s.setStep step (.object (setMembers (fieldsOf (s.data? step)) new))) :=
  merge_eq_ok_iff.mpr ⟨new, rfl, h, rfl⟩

lemma exists_of_not_mergeable (h : ¬ s.Mergeable step) :
    ∃ data, s.data? step = some data ∧ data.isObject = false := by
  simpa [Mergeable] using h

lemma merge_of_data? (hd : s.data? step = some data) (ho : data.isObject = false)
    (new : List (String × Json)) : s.merge step (.object new) =
      .error (.invalidArgument ("data for step '" ++ step ++ "' is not an object")) := by
  rw [merge, hd]
  cases data with
  | object fields => cases ho
  | _ => rfl

lemma merge_of_not_isObject (hv : value.isObject = false) : s.merge step value =
    .error (.invalidArgument ("merge into step '" ++ step ++ "' requires an object")) := by
  cases value with
  | object new => cases hv
  | _ => rfl

lemma exists_merge_eq_error_iff : (∃ e, s.merge step value = .error e) ↔
    value.isObject = false ∨ ∃ data, s.data? step = some data ∧ data.isObject = false := by
  constructor
  · rintro ⟨e, h⟩
    cases value with
    | object new =>
      refine .inr (exists_of_not_mergeable fun hs => ?_)
      rw [merge_of_mergeable hs] at h
      cases h
    | _ => exact .inl rfl
  · rintro (hv | ⟨data, hd, ho⟩)
    · exact ⟨_, merge_of_not_isObject hv⟩
    · cases value with
      | object new => exact ⟨_, merge_of_data? hd ho new⟩
      | _ => exact ⟨_, rfl⟩

lemma enter_of_data? (h : s.data? step = some data) : s.enter step = s := by
  simp [enter, h]

lemma enter_of_none (h : s.data? step = none) : s.enter step = s.setStep step (.object []) := by
  simp [enter, h]

/-- A step is entered only where the merge succeeds. -/
theorem mergeInPlace_eq (s : Store) (step : String) (value : Json) :
    s.mergeInPlace step value =
      match s.merge step value with
      | .ok s' => (.ok (), s')
      | .error e => (.error e, s) := by
  cases value with
  | object new =>
    cases hd : s.data? step with
    | none =>
      have hentered : (s.setStep step (.object [])).data? step = some (.object []) := by
        simp [data?_setStep]
      simp only [mergeInPlace, enter_of_none hd, hentered, merge, hd, setStep_setStep]
    | some data =>
      cases data with
      | object fields => simp only [mergeInPlace, enter_of_data? hd, hd, merge]
      | _ => simp only [mergeInPlace, enter_of_data? hd, hd, merge]
  | _ => rfl

/-- Updates of one step record together what they record one after the other. -/
lemma run_updates_cons (s : Store) (step : String) (m : String × Json)
    (new : List (String × Json)) :
    s.run (updates step (m :: new)) =
      s.setStep step (.object (setMembers (fieldsOf (s.data? step)) (m :: new))) := by
  induction new generalizing s m with
  | nil => rfl
  | cons m' new ih =>
    have hstep : s.run (updates step (m :: m' :: new)) =
        (s.update step m.1 m.2).run (updates step (m' :: new)) := rfl
    have hfields : fieldsOf ((s.update step m.1 m.2).data? step) =
        setMember m.1 m.2 (fieldsOf (s.data? step)) := by
      simp [data?_update, fieldsOf]
    rw [hstep, ih, hfields, update, setStep_setStep, ← setMembers_cons]

lemma merge_eq_run_updates (h : new ≠ [] ∨ (s.data? step).isSome = true)
    (hs : s.merge step (.object new) = .ok s') : s' = s.run (updates step new) := by
  obtain ⟨new', hnew, hdata, rfl⟩ := merge_eq_ok_iff.mp hs
  cases hnew
  cases new with
  | cons m new => exact (run_updates_cons s step m new).symm
  | nil =>
    obtain ⟨data, hd⟩ := Option.isSome_iff_exists.mp (h.resolve_left (not_not_intro rfl))
    cases data with
    | object fields =>
      rw [hd]
      exact setStep_of_data? hd
    | _ => cases hdata _ hd

lemma merge_merge {a : List (String × Json)} (ha : (keys a).Nodup) (b : List (String × Json)) :
    (s.merge step (.object a) >>= fun t => t.merge step (.object b)) =
      s.merge step (.object (setMembers a b)) := by
  by_cases hs : s.Mergeable step
  · have hmerged : (s.setStep step
        (.object (setMembers (fieldsOf (s.data? step)) a))).Mergeable step := by
      intro data hd
      rw [data?_setStep, if_pos rfl] at hd
      cases hd
      rfl
    rw [merge_of_mergeable hs, merge_of_mergeable hs, ← setMembers_setMembers ha]
    change merge _ step (.object b) = _
    rw [merge_of_mergeable hmerged, data?_setStep, if_pos rfl, setStep_setStep]
    rfl
  · obtain ⟨data, hd, ho⟩ := exists_of_not_mergeable hs
    rw [merge_of_data? hd ho, merge_of_data? hd ho]
    rfl

lemma merge_twice (hv : value.wellFormed = true) :
    (s.merge step value >>= fun t => t.merge step value) = s.merge step value := by
  cases value with
  | object new =>
    have hn : (keys new).Nodup := (wellFormed_object.mp hv).1
    rw [merge_merge hn, setMembers_self hn]
  | _ => rfl

/-- When a merge fails and what it leaves then, what updates it stands for, and merges in turn. -/
theorem merge_atomic (s : Store) (step : String) :
    (∀ value, (∃ e, s.merge step value = .error e) ↔
      value.isObject = false ∨ ∃ data, s.data? step = some data ∧ data.isObject = false) ∧
    (∀ value, s.mergeInPlace step value =
      match s.merge step value with
      | .ok s' => (.ok (), s')
      | .error e => (.error e, s)) ∧
    (∀ new s', new ≠ [] ∨ (s.data? step).isSome = true →
      s.merge step (.object new) = .ok s' → s' = s.run (updates step new)) ∧
    (s.data? step = none → s.merge step (.object []) = .ok (s.setStep step (.object []))) ∧
    (∀ a b, (keys a).Nodup →
      (s.merge step (.object a) >>= fun t => t.merge step (.object b)) =
        s.merge step (.object (setMembers a b))) ∧
    (∀ value, value.wellFormed = true →
      (s.merge step value >>= fun t => t.merge step value) = s.merge step value) := by
  refine ⟨fun value => exists_merge_eq_error_iff, mergeInPlace_eq s step,
    fun new s' => merge_eq_run_updates, fun hd => ?_, fun a b ha => merge_merge ha b,
    fun value => merge_twice⟩
  rw [merge, hd]
  rfl

/-- Two merges that share a key with each other and with the step, and one that fails. -/
theorem merge_atomic_shared_keys :
    let s : Store := ⟨[("raw", .string "x"), ("meta", .object [("b", .null), ("a", .null)])]⟩
    let first := [("c", .null), ("a", .bool false)]
    let second := [("d", .null), ("a", .bool true)]
    (s.merge "meta" (.object first) >>= fun t => t.merge "meta" (.object second)) =
      .ok ⟨[("raw", .string "x"), ("meta", .object
        [("b", .null), ("a", .bool true), ("c", .null), ("d", .null)])]⟩ ∧
    s.mergeInPlace "raw" (.object first) =
      (.error (.invalidArgument "data for step 'raw' is not an object"), s) := by
  intro s first second
  have hmeta := merge_atomic s "meta"
  have hkeys : (keys first).Nodup := by decide
  exact ⟨hmeta.2.2.2.2.1 first second hkeys, (merge_atomic s "raw").2.1 (.object first)⟩

end StepConditions.Store
