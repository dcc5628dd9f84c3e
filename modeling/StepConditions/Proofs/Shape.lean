import Mathlib
import StepConditions.Proofs.Members

/-!
# Shape of documents

Properties of a document that hold of it when they hold of each of its nodes, and how deep its nodes
nest. A document is well formed if no object in it has two members of one key.
-/
namespace StepConditions.Json

/-- Induction with one case for each kind of node. -/
@[elab_as_elim]
theorem induction {motive : Json → Prop} (null : motive null) (bool : ∀ b, motive (bool b))
    (number : ∀ n, motive (number n)) (string : ∀ s, motive (string s))
    (array : ∀ items, (∀ j ∈ items, motive j) → motive (array items))
    (object : ∀ members, (∀ m ∈ members, motive m.2) → motive (object members)) (j : Json) :
    motive j := by
  refine @Json.rec motive (fun items => ∀ j ∈ items, motive j)
    (fun members => ∀ m ∈ members, motive m.2) (fun m => motive m.2)
    null bool number string array object ?_ ?_ ?_ ?_ ?_ j
  · exact List.forall_mem_nil _
  · exact fun _ _ hj hjs => List.forall_mem_cons.mpr ⟨hj, hjs⟩
  · exact List.forall_mem_nil _
  · exact fun _ _ hm hms => List.forall_mem_cons.mpr ⟨hm, hms⟩
  · exact fun _ _ h => h

mutual

/-- Every node of the document passes the test. -/
def everyNode (test : Json → Bool) : Json → Bool
  | array items => test (array items) && everyItem test items
  | object members => test (object members) && everyMember test members
  | j => test j

def everyItem (test : Json → Bool) : List Json → Bool
  | [] => true
  | j :: js => everyNode test j && everyItem test js

def everyMember (test : Json → Bool) : List (String × Json) → Bool
  | [] => true
  | (_, j) :: ms => everyNode test j && everyMember test ms

end

mutual

/-- How many arrays and objects lie within each other. -/
def depth : Json → ℕ
  | array items => itemsDepth items + 1
  | object members => membersDepth members + 1
  | _ => 0

def itemsDepth : List Json → ℕ
  | [] => 0
  | j :: js => max (depth j) (itemsDepth js)

def membersDepth : List (String × Json) → ℕ
  | [] => 0
  | (_, j) :: ms => max (depth j) (membersDepth ms)

end

/-- The node is no object with two members of one key. -/
def distinctKeys : Json → Bool
  | object members => decide (keys members).Nodup
  | _ => true

/-- No object in the document has two members of one key. -/
def wellFormed : Json → Bool :=
  everyNode distinctKeys

/-- No number in the document is a double. -/
def floatFree : Json → Bool :=
  everyNode fun
    | number (.float _) => false
    | _ => true

variable {test : Json → Bool} {items : List Json} {members : List (String × Json)} {d : ℕ}

lemma everyNode_array : (array items).everyNode test = true ↔
    test (array items) = true ∧ ∀ j ∈ items, j.everyNode test = true := by
  have h : everyItem test items = true ↔ ∀ j ∈ items, j.everyNode test = true := by
    induction items with
    | nil => simp [everyItem]
    | cons j js ih => simp [everyItem, ih]
  rw [everyNode, Bool.and_eq_true, h]

lemma everyNode_object : (object members).everyNode test = true ↔
    test (object members) = true ∧ ∀ m ∈ members, m.2.everyNode test = true := by
  have h : everyMember test members = true ↔ ∀ m ∈ members, m.2.everyNode test = true := by
    induction members with
    | nil => simp [everyMember]
    | cons m ms ih => simp [everyMember, ih]
  rw [everyNode, Bool.and_eq_true, h]

lemma depth_array_le : (array items).depth ≤ d + 1 ↔ ∀ j ∈ items, j.depth ≤ d := by
  have h : itemsDepth items ≤ d ↔ ∀ j ∈ items, j.depth ≤ d := by
    induction items with
    | nil => simp [itemsDepth]
    | cons j js ih => simp [itemsDepth, ih]
  rw [depth, Nat.add_le_add_iff_right, h]

lemma depth_object_le : (object members).depth ≤ d + 1 ↔ ∀ m ∈ members, m.2.depth ≤ d := by
  have h : membersDepth members ≤ d ↔ ∀ m ∈ members, m.2.depth ≤ d := by
    induction members with
    | nil => simp [membersDepth]
    | cons m ms ih => simp [membersDepth, ih]
  rw [depth, Nat.add_le_add_iff_right, h]

lemma wellFormed_array : (array items).wellFormed = true ↔ ∀ j ∈ items, j.wellFormed = true := by
  simp [wellFormed, everyNode_array, distinctKeys]

lemma wellFormed_object : (object members).wellFormed = true ↔
    (keys members).Nodup ∧ ∀ m ∈ members, m.2.wellFormed = true := by
  simp [wellFormed, everyNode_object, distinctKeys]

lemma get?_eq_some_iff {j child : Json} {key : String} (hj : j.wellFormed = true) :
    j.get? key = some child ↔ ∃ members, j = object members ∧ (key, child) ∈ members := by
  cases j with
  | object members => simp [get?, getMember?_eq_some_iff (wellFormed_object.mp hj).1]
  | _ => simp [get?]

lemma wellFormed_of_get? {j child : Json} {key : String} (hj : j.wellFormed = true)
    (h : j.get? key = some child) : child.wellFormed = true := by
  obtain ⟨members, rfl, hmem⟩ := (get?_eq_some_iff hj).mp h
  exact (wellFormed_object.mp hj).2 _ hmem

lemma wellFormed_setMember {value : Json} (key : String) (hm : (object members).wellFormed = true)
    (hv : value.wellFormed = true) : (object (setMember key value members)).wellFormed = true := by
  rw [wellFormed_object] at hm ⊢
  refine ⟨nodup_keys_setMember hm.1, fun m h => ?_⟩
  rcases mem_setMember h with rfl | h
  · exact hv
  · exact hm.2 m h

lemma wellFormed_setMembers {new : List (String × Json)} (hm : (object members).wellFormed = true)
    (hn : ∀ m ∈ new, m.2.wellFormed = true) :
    (object (setMembers members new)).wellFormed = true := by
  induction new generalizing members with
  | nil => exact hm
  | cons m new ih =>
    obtain ⟨hv, hn⟩ := List.forall_mem_cons.mp hn
    exact ih (wellFormed_setMember m.1 hm hv) hn

lemma floatFree_array : (array items).floatFree = true ↔ ∀ j ∈ items, j.floatFree = true := by
  simp [floatFree, everyNode_array]

lemma floatFree_object :
    (object members).floatFree = true ↔ ∀ m ∈ members, m.2.floatFree = true := by
  simp [floatFree, everyNode_object]

example :
    (object [("a", array [null, object [("b", bool true), ("b", null)]])]).wellFormed = false := by
  decide

end StepConditions.Json
