import Mathlib
import StepConditions.Proofs.Decoding
import StepConditions.Proofs.Members

/-!
# Conditions by name and by position

An element of a condition document is decoded from the nodes of its four parts alone. It makes no
difference whether these are members of an object, in whatever order and among whatever others, or
the nodes of an array, nor whether a part is missing or null.
-/
namespace StepConditions

namespace Condition
open Json (getMember? getMember?_perm getMember?_append getMember?_eq_none_iff)
/-- Both nodes decode to one condition, or neither decodes to any. -/
def DecodeAlike (j k : Json) : Prop :=
  (∃ c, decode j = .ok c ∧ decode k = .ok c) ∨ ∃ d e, decode j = .error d ∧ decode k = .error e

/-- Elements of a condition document that differ in their spelling. -/
inductive Respelled : Json → Json → Prop
  /-- The nodes of an array are members under the keys in turn, in any order and among any others.
  An array of fewer than four nodes leaves the last keys out. -/
  | placed {ms extra : List (String × Json)} {items : List Json} (hi : items.length ≤ 4)
      (hd : (Json.keys extra).Nodup) (he : ∀ k ∈ Json.keys extra, k ∉ keys)
      (hm : ms.Perm (keys.zip items ++ extra)) :
      Respelled (.object ms) (.array items)
  /-- Members that are missing from an object are null. -/
  | completed {ms ms' : List (String × Json)} {missing : List String}
      (hd : (Json.keys ms ++ missing).Nodup)
      (hm : ms'.Perm (ms ++ missing.map fun k => (k, .null))) :
      Respelled (.object ms) (.object ms')

variable {c d : Condition} {j k : Json} {ms ms' extra : List (String × Json)} {items : List Json}
  {mode : Coercion} {resolve : Resolver}

/-- The node of a part, null if it is missing. -/
def part (ms : List (String × Json)) (key : String) : Json :=
  (getMember? key ms).getD .null

/-- Each part is taken from the member of its key, and stays as it is without one. -/
lemma decodeMembers_eq_ok_iff (hd : (Json.keys ms).Nodup) : decodeMembers c ms = .ok d ↔
    (getMember? "stepRef" ms).elim (.ok c.step) decodeName = .ok d.step ∧
      (getMember? "fieldRef" ms).elim (.ok c.field) decodeName = .ok d.field ∧
      (getMember? "operator" ms).elim (.ok c.operator) decodeName = .ok d.operator ∧
      (getMember? "value" ms).elim c.expected .ofJson = d.expected := by
  induction ms generalizing c with
  | nil =>
    obtain ⟨step, field, operator, expected⟩ := c
    obtain ⟨step', field', operator', expected'⟩ := d
    simp [decodeMembers, getMember?]
  | cons m ms ih =>
    obtain ⟨key, j⟩ := m
    obtain ⟨hm, hms⟩ := List.nodup_cons.mp hd
    have hnone : getMember? key ms = none := getMember?_eq_none_iff.mpr hm
    rw [decodeMembers]
    by_cases hstep : key = "stepRef"
    · subst hstep
      cases hj : decodeName j <;> simp [decodeMember, Except.map, getMember?, hj, hnone, ih hms]
    by_cases hfield : key = "fieldRef"
    · subst hfield
      cases hj : decodeName j <;> simp [decodeMember, Except.map, getMember?, hj, hnone, ih hms]
    by_cases hoperator : key = "operator"
    · subst hoperator
      cases hj : decodeName j <;> simp [decodeMember, Except.map, getMember?, hj, hnone, ih hms]
    by_cases hvalue : key = "value"
    · subst hvalue
      simp [decodeMember, getMember?, hnone, ih hms]
    -- a member of another name is passed over
    simp [decodeMember, getMember?, hstep, hfield, hoperator, hvalue, ih hms]

lemma decode_object_eq_ok_iff (hd : (Json.keys ms).Nodup) : decode (.object ms) = .ok c ↔
    decodeName (part ms "stepRef") = .ok c.step ∧ decodeName (part ms "fieldRef") = .ok c.field ∧
      decodeName (part ms "operator") = .ok c.operator ∧
      .ofJson (part ms "value") = c.expected := by
  have hname : ∀ o : Option Json, o.elim (.ok none) decodeName = decodeName (o.getD .null) := by
    intro o
    cases o <;> rfl
  have hvalue : ∀ o : Option Json, o.elim .null Value.ofJson = .ofJson (o.getD .null) := by
    intro o
    cases o <;> rfl
  rw [decode, decodeMembers_eq_ok_iff hd]
  simp only [empty, hname, hvalue, part]

lemma decode_object_congr (hd : (Json.keys ms).Nodup) (hd' : (Json.keys ms').Nodup)
    (h : ∀ key ∈ keys, part ms key = part ms' key) :
    decode (.object ms) = .ok c ↔ decode (.object ms') = .ok c := by
  simp only [keys, List.forall_mem_cons] at h
  rw [decode_object_eq_ok_iff hd, decode_object_eq_ok_iff hd', h.1, h.2.1, h.2.2.1, h.2.2.2.1]

lemma decode_array_of_length_le (h : items.length ≤ 4) :
    decode (.array items) = decode (.object (keys.zip items)) := by
  have hlength : ¬ keys.length < items.length := Nat.not_lt.mpr h
  simp only [decode, hlength, if_false]
  cases decodeMembers empty (keys.zip items) <;> rfl

lemma exists_decode_array_eq_error (h : 4 < items.length) :
    ∃ e, decode (.array items) = .error e := by
  have hlength : keys.length < items.length := h
  simp only [decode, hlength, if_true]
  cases decodeMembers empty (keys.zip items) with
  | ok c => exact ⟨_, rfl⟩
  | error e => exact ⟨e, rfl⟩

lemma keys_zip_sublist (ks : List String) (items : List Json) :
    (Json.keys (ks.zip items)).Sublist ks := by
  induction ks generalizing items with
  | nil => simp
  | cons k ks ih =>
    cases items with
    | nil => simp
    | cons j items => simpa using ih items

lemma nodup_keys_placed (hd : (Json.keys extra).Nodup) (he : ∀ k ∈ Json.keys extra, k ∉ keys) :
    (Json.keys (keys.zip items ++ extra)).Nodup := by
  have hzip := keys_zip_sublist keys items
  rw [Json.keys_append]
  refine (hzip.nodup (by decide)).append hd fun k hk hmem => ?_
  exact he k hmem (hzip.mem hk)

lemma part_append_of_null (h : part extra key = .null) : part (ms ++ extra) key = part ms key := by
  rw [part, getMember?_append, part]
  cases getMember? key ms with
  | none => exact h
  | some j => rfl

lemma part_map_null (missing : List String) (key : String) :
    part (missing.map fun k => (k, .null)) key = .null := by
  induction missing with
  | nil => rfl
  | cons k missing ih =>
    by_cases hk : k = key
    · simp [part, getMember?, hk]
    · simpa [part, getMember?, hk] using ih

lemma decode_of_respelled (h : Respelled j k) : decode j = .ok c ↔ decode k = .ok c := by
  cases h with
  | @placed ms extra items hi hd he hm =>
    have hnodup : (Json.keys (keys.zip items ++ extra)).Nodup := nodup_keys_placed hd he
    have hkeys : (Json.keys ms).Perm (Json.keys (keys.zip items ++ extra)) := hm.map Prod.fst
    have hzip : (Json.keys (keys.zip items)).Nodup := by
      rw [Json.keys_append] at hnodup
      exact hnodup.of_append_left
    rw [decode_array_of_length_le hi]
    refine decode_object_congr (hkeys.nodup_iff.mpr hnodup) hzip fun key hkey => ?_
    have hnone : getMember? key extra = none :=
      getMember?_eq_none_iff.mpr fun hmem => he key hmem hkey
    rw [part, getMember?_perm hm (hkeys.nodup_iff.mpr hnodup), ← part]
    exact part_append_of_null (by simp [part, hnone])
  | @completed ms ms' missing hd hm =>
    have hnulls : Json.keys (missing.map fun k => (k, Json.null)) = missing := by
      simp [Json.keys, Function.comp_def]
    have hkeys : (Json.keys ms').Perm (Json.keys ms ++ missing) := by
      have := hm.map Prod.fst
      rwa [List.map_append, ← Json.keys, ← Json.keys, ← Json.keys, hnulls] at this
    have hnodup := hkeys.nodup_iff.mpr hd
    refine decode_object_congr hd.of_append_left hnodup fun key _ => ?_
    rw [part, part, getMember?_perm hm hnodup, ← part, ← part]
    exact (part_append_of_null (part_map_null missing key)).symm

lemma decode_of_eqvGen (h : Relation.EqvGen Respelled j k) :
    decode j = .ok c ↔ decode k = .ok c := by
  induction h with
  | rel j k h => exact decode_of_respelled h
  | refl j => exact Iff.rfl
  | symm j k _ ih => exact ih.symm
  | trans j k l _ _ ih ih' => exact ih.trans ih'

lemma decodeAlike_of_forall (h : ∀ c, decode j = .ok c ↔ decode k = .ok c) : DecodeAlike j k := by
  cases hj : decode j with
  | ok c => exact .inl ⟨c, hj, (h c).mp hj⟩
  | error d =>
    cases hk : decode k with
    | ok c =>
      rw [(h c).mpr hk] at hj
      cases hj
    | error e => exact .inr ⟨d, e, hj, hk⟩

lemma checkNode_of_decodeAlike (h : DecodeAlike j k) :
    checkNode mode resolve j = checkNode mode resolve k := by
  rcases h with ⟨c, hj, hk⟩ | ⟨d, e, hj, hk⟩ <;> simp only [checkNode, hj, hk]

/-- An array of four nodes decodes part by part, and an array of more not at all. Two spellings of
an element decode alike. Elements of a condition document may be spelled anew, each of them any
number of times, and its evaluation comes to the same result by the same lookups. -/
theorem spelling_immaterial :
    (∀ step field operator value c, decode (.array [step, field, operator, value]) = .ok c ↔
      decodeName step = .ok c.step ∧ decodeName field = .ok c.field ∧
        decodeName operator = .ok c.operator ∧ .ofJson value = c.expected) ∧
      (∀ items, 4 < items.length → ∃ e, decode (.array items) = .error e) ∧
      (∀ j k, Respelled j k → DecodeAlike j k) ∧
      ∀ mode resolver before after, List.Forall₂ (Relation.EqvGen Respelled) before after →
        evaluateDocument mode (some (.array before)) resolver =
          evaluateDocument mode (some (.array after)) resolver := by
  refine ⟨fun step field operator value c => ?_, fun items h => ?_, fun j k h => ?_, ?_⟩
  · have hkeys : (Json.keys (keys.zip [step, field, operator, value])).Nodup :=
      (keys_zip_sublist _ _).nodup (by decide)
    rw [decode_array_of_length_le (by simp), decode_object_eq_ok_iff hkeys]
    rfl
  · exact exists_decode_array_eq_error h
  · exact decodeAlike_of_forall fun c => decode_of_respelled h
  · intro mode resolver before after h
    refine evaluateWith_congr (h.imp fun j k hjk resolve => ?_)
    exact checkNode_of_decodeAlike (decodeAlike_of_forall fun c => decode_of_eqvGen hjk)

/-- A condition without an expected value by name, with a null for it, and by position. -/
theorem spelling_immaterial_short_array :
    let byName : Json := .object [("note", .bool true), ("operator", .string "eq"),
      ("fieldRef", .string "total"), ("stepRef", .string "order")]
    let completed : Json := .object [("value", .null), ("stepRef", .string "order"),
      ("fieldRef", .string "total"), ("operator", .string "eq"), ("note", .bool true)]
    let byPlace : Json := .array [.string "order", .string "total", .string "eq"]
    let tooLong : List Json := [.null, .null, .null, .null, .null]
    let resolve : Resolver := fun _ _ => .ok (some "12")
    (4 < tooLong.length ∧ ∃ e, decode (.array tooLong) = .error e) ∧
      (Respelled byName byPlace ∧ DecodeAlike byName byPlace) ∧
      (Respelled byName completed ∧ DecodeAlike byName completed) ∧
      List.Forall₂ (Relation.EqvGen Respelled) [completed, byName] [byPlace, byName] ∧
      evaluateDocument .text (some (.array [completed, byName])) (some resolve) =
        evaluateDocument .text (some (.array [byPlace, byName])) (some resolve) := by
  intro byName completed byPlace tooLong resolve
  obtain ⟨-, hlong, halike, hdocument⟩ := spelling_immaterial
  have hplaced : Respelled byName byPlace :=
    @Respelled.placed _ [("note", .bool true)] _ (by decide) (by decide) (by decide)
      (List.reverse_perm'.mp (.refl _))
  have hcompleted : Respelled byName completed :=
    @Respelled.completed _ _ ["value"] (by decide) (List.reverse_perm'.mp (.refl _))
  have hboth : Relation.EqvGen Respelled completed byPlace :=
    .trans _ byName _ (.symm _ _ (.rel _ _ hcompleted)) (.rel _ _ hplaced)
  have hall : List.Forall₂ (Relation.EqvGen Respelled) [completed, byName] [byPlace, byName] :=
    .cons hboth (.cons (.refl byName) .nil)
  exact ⟨⟨by decide, hlong tooLong (by decide)⟩, ⟨hplaced, halike _ _ hplaced⟩,
    ⟨hcompleted, halike _ _ hcompleted⟩, hall, hdocument _ _ _ _ hall⟩

end Condition

end StepConditions
