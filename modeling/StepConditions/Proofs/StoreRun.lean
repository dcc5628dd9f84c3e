import Mathlib
import StepConditions.Proofs.ReadAfterWrite
import StepConditions.Proofs.Shape

/-!
# Runs of a store

A store starts empty or from a document and is changed from then on. Whatever the changes are,
steps and fields stay distinct, fields keep their places, and a change is seen in its own step
alone. If no step is ever replaced by something else than an object, all steps are objects: no merge
of an object fails, and the store is the one that its document is loaded to.
-/
namespace StepConditions

namespace Json
variable {ms new : List (String × Json)}

/-- Members with others recorded over them: the keys keep their places, those that are new follow in
their own order, and each of the others gives the value at its key. -/
def Overlaid (before new after : List (String × Json)) : Prop :=
  keys after = keys before ++ (keys new).filter (fun k => k ∉ keys before) ∧
    ∀ k, getMember? k after = (getMember? k new).or (getMember? k before)

lemma overlaid_setMembers (hn : (keys new).Nodup) : Overlaid ms new (setMembers ms new) :=
  ⟨keys_setMembers hn, fun _ => getMember?_setMembers hn⟩

end Json

namespace Store
open Json

/-- A change of what is recorded. -/
inductive Change where
  | setStep (step : String) (data : Json)
  | update (step field : String) (value : Json)
  | merge (step : String) (value : Json)

namespace Change

def step : Change → String
  | setStep step _ | update step _ _ | merge step _ => step

def document : Change → Json
  | setStep _ data => data
  | update _ _ value | merge _ value => value

/-- The change makes no step something else than an object. -/
def keepsObjects : Change → Bool
  | setStep _ data => data.isObject
  | update .. | merge .. => true

/-- The store after the change; a merge that fails leaves it as it was. -/
def apply (s : Store) : Change → Store
  | setStep step data => s.setStep step data
  | update step field value => s.update step field value
  | merge step value =>
    match s.merge step value with
    | .ok s' => s'
    | .error _ => s

end Change

def run (s : Store) (cs : List Change) : Store :=
  cs.foldl Change.apply s

/-- Nothing recorded, or what a well-formed document holds. -/
def Start (s : Store) : Prop :=
  s = empty ∨ ∃ d : Json, d.wellFormed = true ∧ ofJson d = .ok s

/-- The recorded steps are distinct, and so are the fields of each object in them. -/
def WellFormed (s : Store) : Prop :=
  (object s.steps).wellFormed = true

/-- Every recorded step is an object. -/
def HoldsObjects (s : Store) : Prop :=
  ∀ m ∈ s.steps, m.2.isObject = true

variable {s s' : Store} {step field : String} {data value d : Json} {c : Change} {cs : List Change}
  {ms new : List (String × Json)}

lemma addSteps_eq_ok_iff :
    s.addSteps ms = .ok s' ↔ (∀ m ∈ ms, m.2.isObject = true) ∧ s' = ⟨setMembers s.steps ms⟩ := by
  induction ms generalizing s with
  | nil =>
    have h : setMembers s.steps [] = s.steps := rfl
    rw [addSteps, h, Except.ok.injEq, eq_comm]
    simp
  | cons m ms ih =>
    cases hm : m.2.isObject with
    | true => simp [addSteps, hm, ih, setStep, setMembers]
    | false => simp [addSteps, hm]

lemma ofJson_object_eq_ok_iff :
    ofJson (.object ms) = .ok s ↔ (∀ m ∈ ms, m.2.isObject = true) ∧ s = ⟨setMembers [] ms⟩ :=
  addSteps_eq_ok_iff

lemma exists_of_ofJson_eq_ok (h : ofJson d = .ok s) :
    ∃ ms, d = .object ms ∧ (∀ m ∈ ms, m.2.isObject = true) ∧ s = ⟨setMembers [] ms⟩ := by
  cases d with
  | object ms => exact ⟨ms, rfl, ofJson_object_eq_ok_iff.mp h⟩
  | _ => cases h

/-- A merge gives a store exactly for an object recorded over the fields of no step or an object. -/
lemma merge_eq_ok_iff :
    s.merge step value = .ok s' ↔ ∃ new, value = .object new ∧
      (∀ data, s.data? step = some data → data.isObject = true) ∧
      s' = s.setStep step (.object (setMembers (fieldsOf (s.data? step)) new)) := by
  cases value with
  | object new =>
    simp only [merge, Json.object.injEq, exists_eq_left']
    cases hd : s.data? step with
    | none => simp [fieldsOf, eq_comm (a := s')]
    | some data => cases data <;> simp [fieldsOf, isObject, eq_comm (a := s')]
  | _ => simp [merge]

lemma wellFormed_setStep (hs : s.WellFormed) (hd : data.wellFormed = true) :
    (s.setStep step data).WellFormed :=
  wellFormed_setMember step hs hd

lemma wellFormed_of_data? (hs : s.WellFormed) (h : s.data? step = some data) :
    data.wellFormed = true :=
  (wellFormed_object.mp hs).2 _ (mem_of_getMember? h)

lemma wellFormed_fieldsOf (hs : s.WellFormed) (step : String) :
    (object (fieldsOf (s.data? step))).wellFormed = true := by
  cases hd : s.data? step with
  | none => rfl
  | some data =>
    have := wellFormed_of_data? hs hd
    cases data with
    | object fields => exact this
    | _ => rfl

lemma wellFormed_merge (hs : s.WellFormed) (hv : value.wellFormed = true)
    (h : s.merge step value = .ok s') : s'.WellFormed := by
  obtain ⟨new, rfl, -, rfl⟩ := merge_eq_ok_iff.mp h
  have hn := (wellFormed_object.mp hv).2
  exact wellFormed_setStep hs (wellFormed_setMembers (wellFormed_fieldsOf hs step) hn)

lemma wellFormed_apply (hs : s.WellFormed) (hc : c.document.wellFormed = true) :
    (c.apply s).WellFormed := by
  cases c with
  | setStep step data => exact wellFormed_setStep hs hc
  | update step field value =>
    exact wellFormed_setStep hs (wellFormed_setMember field (wellFormed_fieldsOf hs step) hc)
  | merge step value =>
    rw [Change.apply]
    split
    next s' h => exact wellFormed_merge hs hc h
    next => exact hs

lemma Start.wellFormed (hs : s.Start) : s.WellFormed := by
  obtain rfl | ⟨d, hd, h⟩ := hs
  · rfl
  · obtain ⟨ms, rfl, -, rfl⟩ := exists_of_ofJson_eq_ok h
    exact wellFormed_setMembers rfl (wellFormed_object.mp hd).2

lemma wellFormed_run (hs : s.WellFormed) (hc : ∀ c ∈ cs, c.document.wellFormed = true) :
    (s.run cs).WellFormed := by
  induction cs generalizing s with
  | nil => exact hs
  | cons c cs ih =>
    obtain ⟨hc, hcs⟩ := List.forall_mem_cons.mp hc
    exact ih (wellFormed_apply hs hc) hcs

lemma holdsObjects_setStep (hs : s.HoldsObjects) (hd : data.isObject = true) :
    (s.setStep step data).HoldsObjects := by
  intro m hm
  rcases mem_setMember hm with rfl | hm
  · exact hd
  · exact hs m hm

lemma holdsObjects_apply (hs : s.HoldsObjects) (hc : c.keepsObjects = true) :
    (c.apply s).HoldsObjects := by
  cases c with
  | setStep step data => exact holdsObjects_setStep hs hc
  | update step field value => exact holdsObjects_setStep hs rfl
  | merge step value =>
    rw [Change.apply]
    split
    next s' h =>
      obtain ⟨new, -, -, rfl⟩ := merge_eq_ok_iff.mp h
      exact holdsObjects_setStep hs rfl
    next => exact hs

lemma holdsObjects_setMembers (hs : s.HoldsObjects) (hn : ∀ m ∈ new, m.2.isObject = true) :
    HoldsObjects ⟨setMembers s.steps new⟩ := by
  induction new generalizing s with
  | nil => exact hs
  | cons m new ih =>
    obtain ⟨hm, hn⟩ := List.forall_mem_cons.mp hn
    have hset : (s.setStep m.1 m.2).HoldsObjects := holdsObjects_setStep hs hm
    exact ih hset hn

lemma Start.holdsObjects (hs : s.Start) : s.HoldsObjects := by
  have hempty : empty.HoldsObjects := by simp [HoldsObjects, empty]
  obtain rfl | ⟨d, -, h⟩ := hs
  · exact hempty
  · obtain ⟨ms, -, hm, rfl⟩ := exists_of_ofJson_eq_ok h
    exact holdsObjects_setMembers hempty hm

lemma holdsObjects_run (hs : s.HoldsObjects) (hc : ∀ c ∈ cs, c.keepsObjects = true) :
    (s.run cs).HoldsObjects := by
  induction cs generalizing s with
  | nil => exact hs
  | cons c cs ih =>
    obtain ⟨hc, hcs⟩ := List.forall_mem_cons.mp hc
    exact ih (holdsObjects_apply hs hc) hcs

lemma data?_apply_of_ne (h : step ≠ c.step) : (c.apply s).data? step = s.data? step := by
  cases c with
  | setStep step' data => exact (data?_setStep step).trans (if_neg h)
  | update step' field value => exact (data?_update step).trans (if_neg h)
  | merge step' value =>
    rw [Change.apply]
    split
    next s' hs =>
      obtain ⟨new, -, -, rfl⟩ := merge_eq_ok_iff.mp hs
      exact (data?_setStep step).trans (if_neg h)
    next => rfl

lemma data?_run_of_ne (h : ∀ c ∈ cs, step ≠ c.step) : (s.run cs).data? step = s.data? step := by
  induction cs generalizing s with
  | nil => rfl
  | cons c cs ih =>
    obtain ⟨hc, hcs⟩ := List.forall_mem_cons.mp h
    exact (ih hcs).trans (data?_apply_of_ne hc)

lemma overlaid_update (s : Store) (step field : String) (value : Json) :
    ∃ fields, (s.update step field value).data? step = some (.object fields) ∧
      Overlaid (fieldsOf (s.data? step)) [(field, value)] fields := by
  refine ⟨setMember field value (fieldsOf (s.data? step)), ?_, ?_⟩
  · rw [data?_update, if_pos rfl]
  · have hn : (keys [(field, value)]).Nodup := by simp
    exact overlaid_setMembers hn

lemma overlaid_merge (hn : (keys new).Nodup) (h : s.merge step (.object new) = .ok s') :
    ∃ fields, s'.data? step = some (.object fields) ∧
      Overlaid (fieldsOf (s.data? step)) new fields := by
  obtain ⟨_, hv, -, rfl⟩ := merge_eq_ok_iff.mp h
  cases hv
  refine ⟨_, ?_, overlaid_setMembers hn⟩
  rw [data?_setStep, if_pos rfl]

lemma exists_merge_eq_ok (hs : s.HoldsObjects) (step : String) (new : List (String × Json)) :
    ∃ s', s.merge step (.object new) = .ok s' := by
  refine ⟨_, merge_eq_ok_iff.mpr ⟨new, rfl, fun data h => ?_, rfl⟩⟩
  exact hs _ (mem_of_getMember? h)

/-- The steps may be listed in any order. -/
lemma ofJson_of_perm (hw : s.WellFormed) (ho : s.HoldsObjects) (hp : ms.Perm s.steps) :
    ofJson (.object ms) = .ok ⟨ms⟩ ∧ ∀ step, Store.data? ⟨ms⟩ step = s.data? step := by
  have hd : (keys s.steps).Nodup := (wellFormed_object.mp hw).1
  have hn : (keys ms).Nodup := (hp.map Prod.fst).nodup_iff.mpr hd
  constructor
  · refine ofJson_object_eq_ok_iff.mpr ⟨fun m hm => ho m (hp.mem_iff.mp hm), ?_⟩
    have hset : setMembers [] ms = ms := setMembers_of_nodup hn
    rw [hset]
  · exact fun step => getMember?_perm hp hn

/-- What holds of a store after any run of changes, and of one more change to it. -/
theorem run_representation (hs : s.Start) (hc : ∀ c ∈ cs, c.document.wellFormed = true) :
    (keys (s.run cs).steps).Nodup ∧
    (∀ step fields, (s.run cs).data? step = some (.object fields) → (keys fields).Nodup) ∧
    (∀ step field value, ∃ fields,
      ((s.run cs).update step field value).data? step = some (.object fields) ∧
        Overlaid (fieldsOf ((s.run cs).data? step)) [(field, value)] fields) ∧
    (∀ step new s', (keys new).Nodup → (s.run cs).merge step (.object new) = .ok s' →
      ∃ fields, s'.data? step = some (.object fields) ∧
        Overlaid (fieldsOf ((s.run cs).data? step)) new fields) ∧
    (∀ (c : Change) step, step ≠ c.step → (c.apply (s.run cs)).data? step = (s.run cs).data? step) ∧
    (∀ step, (∀ c ∈ cs, step ≠ c.step) → (s.run cs).data? step = s.data? step) ∧
    ((∀ c ∈ cs, c.keepsObjects = true) →
      (s.run cs).HoldsObjects ∧
      (∀ step new, ∃ s', (s.run cs).merge step (.object new) = .ok s') ∧
      ofJson (s.run cs).toJson = .ok (s.run cs) ∧
      ∀ ms, ms.Perm (s.run cs).steps →
        ofJson (.object ms) = .ok ⟨ms⟩ ∧
          ∀ step, Store.data? ⟨ms⟩ step = (s.run cs).data? step) := by
  have hw : (s.run cs).WellFormed := wellFormed_run hs.wellFormed hc
  refine ⟨(wellFormed_object.mp hw).1, fun step fields h => ?_, overlaid_update _,
    fun _ _ _ => overlaid_merge, fun _ _ => data?_apply_of_ne, fun _ => data?_run_of_ne,
    fun hk => ?_⟩
  · exact (wellFormed_object.mp (wellFormed_of_data? hw h)).1
  · have ho : (s.run cs).HoldsObjects := holdsObjects_run hs.holdsObjects hk
    exact ⟨ho, exists_merge_eq_ok ho, (ofJson_of_perm hw ho (.refl _)).1,
      fun _ => ofJson_of_perm hw ho⟩

/-- A run from a document, with a merge that fails. -/
theorem run_representation_loaded :
    let s : Store := ⟨[("meta", .object [("a", .bool true), ("b", .null)])]⟩
    let cs : List Change := [.merge "meta" (.object [("c", .null), ("a", .bool false)]),
      .merge "meta" (.array []), .update "quote" "amount" (.string "1500")]
    (s.run cs).steps =
      [("meta", .object [("a", .bool false), ("b", .null), ("c", .null)]),
        ("quote", .object [("amount", .string "1500")])] ∧
    ofJson (s.run cs).toJson = .ok (s.run cs) := by
  intro s cs
  have hs : s.Start := .inr ⟨s.toJson, by decide, rfl⟩
  have hc : ∀ c ∈ cs, c.document.wellFormed = true := by decide
  have h := run_representation hs hc
  exact ⟨rfl, (h.2.2.2.2.2.2 (by decide)).2.2.1⟩

end Store

end StepConditions
