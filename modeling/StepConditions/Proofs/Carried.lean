import Mathlib
import StepConditions.Condition.Decode
import StepConditions.Proofs.Except
import StepConditions.Proofs.JsonText

/-!
# Documents carried as operands

Arrays, objects and the largest integers are carried as text, and turned into a node again they are
read from it. Nothing is lost on the way as long as no doubles are involved and the reader can go as
deep as the document. A condition that came from such a document is therefore the same after it was
written and decoded once more.
-/
namespace StepConditions
open Json

namespace Value
variable {i : ℤ} {n : Json}

lemma int?_ofInt (hl : -0x8000000000000000 ≤ i) (hh : i < 0x8000000000000000) :
    (ofInt i).int? = some i := by
  rw [ofInt]
  split
  next h => exact congrArg some (Int32.toInt_ofInt_of_le h.1 h.2)
  next => exact congrArg some (Int64.toInt_ofInt_of_le hl hh)

lemma isNumeric_ofInt (i : ℤ) : (ofInt i).isNumeric = true := by
  rw [ofInt]
  split <;> rfl

lemma toJson_of_int? {v : Value} (h : v.int? = some i) : v.toJson = intNode i := by
  cases v <;> simp_all [int?, toJson]

lemma intNode_whole (i : Whole) : intNode i.val = .number (.whole i) := by
  simp [intNode, Number.ofInt?, i.low, i.high]

lemma toJson_raw_print (hw : n.wellFormed = true) (hf : n.floatFree = true) (hd : n.depth ≤ 127) :
    (raw n.print).toJson = n := by
  rw [toJson, parse?_print hw hf hd, Option.getD_some]

theorem toJson_ofJson (hw : n.wellFormed = true) (hf : n.floatFree = true) (hd : n.depth ≤ 127) :
    (ofJson n).toJson = n := by
  cases n with
  | null | bool _ | string _ => rfl
  | array _ | object _ => exact toJson_raw_print hw hf hd
  | number n =>
    cases n with
    | float x => cases hf
    | whole i =>
      rw [ofJson, ofNumber]
      split
      next h => rw [toJson_of_int? (int?_ofInt i.low h), intNode_whole]
      next =>
        change (raw (String.ofList (Number.whole i).text)).toJson = _
        rw [← print_number]
        exact toJson_raw_print hw hf hd

end Value

namespace Condition
variable {c c' : Condition} {key : String} {j : Json} {ms : List (String × Json)}

lemma expected_of_decodeMember (h : decodeMember c key j = .ok c') :
    c'.expected = c.expected ∨ c'.expected = .ofJson j := by
  unfold decodeMember at h
  split at h
  case h_4 =>
    cases h
    exact .inr rfl
  case h_5 =>
    cases h
    exact .inl rfl
  all_goals
    obtain ⟨s, -, rfl⟩ := map_eq_ok_iff.mp h
    exact .inl rfl

lemma expected_of_decodeMembers (h : decodeMembers c ms = .ok c') :
    c'.expected = c.expected ∨ ∃ m ∈ ms, c'.expected = .ofJson m.2 := by
  induction ms generalizing c with
  | nil =>
    cases h
    exact .inl rfl
  | cons m ms ih =>
    rw [decodeMembers] at h
    split at h
    next d hd =>
      rcases ih h with he | ⟨m', hm', he⟩
      · rcases expected_of_decodeMember hd with hd | hd
        · exact .inl (he.trans hd)
        · exact .inr ⟨m, List.mem_cons_self, he.trans hd⟩
      · exact .inr ⟨m', List.mem_cons_of_mem m hm', he⟩
    next => cases h

/-- The expected value is the one of a node of the element, or none is there. -/
lemma exists_expected (h : decode j = .ok c) (hw : j.wellFormed = true) (hf : j.floatFree = true)
    (hd : j.depth ≤ 127) : ∃ n : Json, c.expected = .ofJson n ∧ n.wellFormed = true ∧
      n.floatFree = true ∧ n.depth ≤ 126 := by
  have hnone : ∃ n : Json, Value.null = .ofJson n ∧ n.wellFormed = true ∧ n.floatFree = true ∧
      n.depth ≤ 126 := ⟨.null, rfl, rfl, rfl, Nat.zero_le _⟩
  cases j with
  | object members =>
    rcases expected_of_decodeMembers h with he | ⟨m, hm, he⟩
    · rwa [he]
    · exact ⟨m.2, he, (wellFormed_object.mp hw).2 m hm, floatFree_object.mp hf m hm,
        depth_object_le.mp hd m hm⟩
  | array items =>
    have h : decodeMembers empty (keys.zip items) = .ok c := by
      simp only [decode] at h
      split at h
      · split at h
        · cases h
        · simp_all
      · cases h
    rcases expected_of_decodeMembers h with he | ⟨m, hm, he⟩
    · rwa [he]
    · have hm := (List.of_mem_zip hm).2
      exact ⟨m.2, he, wellFormed_array.mp hw m.2 hm, floatFree_array.mp hf m.2 hm,
        depth_array_le.mp hd m.2 hm⟩
  | _ => cases h

lemma decodeName_nameNode (s : Option String) : decodeName (nameNode s) = .ok s := by
  cases s <;> rfl

lemma decode_toJson (h : Value.ofJson c.expected.toJson = c.expected) :
    decode c.toJson = .ok c := by
  simp [decode, toJson, decodeMembers, decodeMember, decodeName_nameNode, Except.map, h]

lemma nameNode_shape (s : Option String) :
    (nameNode s).wellFormed = true ∧ (nameNode s).floatFree = true ∧ (nameNode s).depth = 0 := by
  cases s <;> exact ⟨rfl, rfl, rfl⟩

/-- The condition is an object around the node of its value, one level deeper. -/
lemma parse?_print_toJson {n : Json} (hn : c.expected.toJson = n) (hw : n.wellFormed = true)
    (hf : n.floatFree = true) (hd : n.depth ≤ 126) : parse? c.toJson.print = some c.toJson := by
  apply parse?_print
  · simp [toJson, wellFormed_object, nameNode_shape, hn, hw]
  · simp [toJson, floatFree_object, nameNode_shape, hn, hf]
  · exact depth_object_le.mpr (by simpa [nameNode_shape, hn] using hd)

/-- A document without doubles that nests no deeper than `127` is the node of its value. If it is
the element of a condition list, its condition is decoded again from the node and from the text that
the condition is written as. -/
theorem carried_document {n : Json} (hw : n.wellFormed = true) (hf : n.floatFree = true)
    (hd : n.depth ≤ 127) :
    (Value.ofJson n).toJson = n ∧
      ∀ c, decode n = .ok c → decode c.toJson = .ok c ∧
        (parse? c.toJson.print).map decode = some (.ok c) := by
  refine ⟨Value.toJson_ofJson hw hf hd, fun c h => ?_⟩
  obtain ⟨v, hv, hvw, hvf, hvd⟩ := exists_expected h hw hf hd
  have hnode : c.expected.toJson = v := by rw [hv, Value.toJson_ofJson hvw hvf (by omega)]
  have hdecode : decode c.toJson = .ok c := decode_toJson (by rw [hnode, hv])
  rw [parse?_print_toJson hnode hvw hvf hvd, Option.map_some, hdecode]
  exact ⟨rfl, rfl⟩

/-- An element in the array form, whose value holds the largest integer and a control character. -/
theorem carried_document_element :
    let n : Json := .array [.string "s", .string "f", .string "==", .object
      [("a", .array [.number (.whole ⟨18446744073709551615, by decide, by decide⟩), .null]),
        ("b", .string "\x01")]]
    (Value.ofJson n).toJson = n ∧ ∃ c, decode n = .ok c ∧
      c.expected = .raw "\x7b\"a\":[18446744073709551615,null],\"b\":\"\\u0001\"\x7d" ∧
      decode c.toJson = .ok c ∧ (parse? c.toJson.print).map decode = some (.ok c) := by
  intro n
  have h := carried_document (n := n) (by decide) (by decide) (by decide)
  exact ⟨h.1, _, rfl, by decide, h.2 _ rfl⟩

end Condition

end StepConditions
