import Mathlib
import StepConditions.Json.Path
import StepConditions.Proofs.Shape
import StepConditions.Proofs.Text

/-!
# Paths as chains of keys

A path stands for the keys between its dots, and no other keys without dots are joined to it. What
it finds is the end of the chain of nested objects along these keys, so a path that goes on behind
another finds what the rest of it finds from there.
-/
namespace StepConditions.Json
open Text
variable {path p q key : String} {keys : List String} {cs part : List Char} {d n : Json}

lemma splitDots_eq_splitOn (cs : List Char) : splitDots cs = cs.splitOn '.' := by
  induction cs with
  | nil => exact (List.splitOn_nil '.').symm
  | cons c cs ih =>
    have hcons : (c :: cs).splitOn '.' =
        if c = '.' then [] :: cs.splitOn '.' else (cs.splitOn '.').modifyHead (List.cons c) := by
      simp [List.splitOn_eq_splitOnP, List.splitOnP_cons_eq_if_modifyHead]
    rw [splitDots, ih, hcons]
    cases h : cs.splitOn '.' with
    | nil => exact absurd h (List.splitOn_ne_nil '.' cs)
    | cons part parts => rfl

lemma splitDots_ne_nil (cs : List Char) : splitDots cs ≠ [] := by
  rw [splitDots_eq_splitOn]
  exact List.splitOn_ne_nil '.' cs

lemma dot_notMem_of_mem_splitDots (h : part ∈ splitDots cs) : '.' ∉ part := by
  induction cs generalizing part with
  | nil =>
    rw [splitDots, List.mem_singleton] at h
    simp [h]
  | cons c cs ih =>
    rw [splitDots] at h
    split at h
    next =>
      rcases List.mem_cons.mp h with rfl | h
      · simp
      · exact ih h
    next hc =>
      split at h
      next hnil => exact absurd hnil (splitDots_ne_nil cs)
      next first parts hcs =>
        rw [hcs] at ih
        rcases List.mem_cons.mp h with rfl | h
        · have := ih (List.mem_cons_self (a := first))
          simp [Ne.symm hc, this]
        · exact ih (List.mem_cons_of_mem first h)

lemma segments_ne_nil (path : String) : segments path ≠ [] := by
  simp [segments, splitDots_ne_nil]

lemma exists_segments (path : String) : ∃ key keys, segments path = key :: keys :=
  List.exists_cons_of_ne_nil (segments_ne_nil path)

lemma dot_notMem_of_mem_segments (h : key ∈ segments path) : '.' ∉ key.toList := by
  obtain ⟨part, hpart, rfl⟩ := List.mem_map.mp h
  simpa using dot_notMem_of_mem_splitDots hpart

lemma map_toList_segments (path : String) :
    (segments path).map String.toList = path.toList.splitOn '.' := by
  simp [segments, splitDots_eq_splitOn, Function.comp_def]

lemma intercalate_segments (path : String) : ".".intercalate (segments path) = path := by
  rw [← String.toList_inj, String.toList_intercalate, map_toList_segments]
  exact List.intercalate_splitOn '.'

lemma segments_intercalate (hne : keys ≠ []) (hd : ∀ key ∈ keys, '.' ∉ key.toList) :
    segments (".".intercalate keys) = keys := by
  have hsplit : (".".intercalate keys).toList.splitOn '.' = keys.map String.toList := by
    rw [String.toList_intercalate]
    refine List.splitOn_intercalate '.' ?_ (by simpa using hne)
    simpa using hd
  rw [segments, splitDots_eq_splitOn, hsplit]
  simp

/-- The keys of a path are the only ones without dots that are joined to it. -/
theorem segments_eq_iff : segments path = keys ↔
    keys ≠ [] ∧ (∀ key ∈ keys, '.' ∉ key.toList) ∧ ".".intercalate keys = path := by
  constructor
  · rintro rfl
    exact ⟨segments_ne_nil path, fun _ => dot_notMem_of_mem_segments, intercalate_segments path⟩
  · rintro ⟨hne, hd, rfl⟩
    exact segments_intercalate hne hd

lemma segments_of_dot_notMem (h : '.' ∉ key.toList) : segments key = [key] :=
  segments_eq_iff.mpr ⟨List.cons_ne_nil key [], by simpa using h, String.intercalate_singleton⟩

lemma segments_append_dot (p q : String) : segments (p ++ "." ++ q) = segments p ++ segments q := by
  simp [segments, splitDots_eq_splitOn, List.splitOn_append_cons_self]

lemma not_isBlank_append_dot (p q : String) : isBlank (p ++ "." ++ q) = false := by
  rw [Bool.eq_false_iff, ne_eq, isBlank_iff]
  intro h
  have hdot : isSpace '.' = true := h '.' (by simp)
  exact absurd hdot (by decide)

lemma follow?_append (ks ls : List String) (j : Json) :
    follow? (ks ++ ls) j = (follow? ks j).bind (follow? ls) := by
  induction ks generalizing j with
  | nil => rfl
  | cons k ks ih =>
    rw [List.cons_append, follow?, follow?]
    cases j.get? k with
    | none => rfl
    | some child => exact ih child

lemma at?_of_not_isBlank (h : isBlank path = false) (d : Json) :
    d.at? path = follow? (segments path) d := by
  rw [at?, h]
  rfl

lemma bind_at?_of_not_isBlank (h : isBlank path = false) (root : Option Json) :
    root.bind (·.at? path) = root.bind (follow? (segments path)) := by
  congr 1
  funext d
  exact at?_of_not_isBlank h d

lemma at?_append_dot (hp : isBlank p = false) (hq : isBlank q = false) (d : Json) :
    d.at? (p ++ "." ++ q) = (d.at? p).bind (·.at? q) := by
  rw [at?_of_not_isBlank (not_isBlank_append_dot p q), at?_of_not_isBlank hp, segments_append_dot,
    follow?_append, bind_at?_of_not_isBlank hq]

/-- A single key, unlike a path, may be blank. -/
lemma at?_dot_of_dot_notMem (hk : '.' ∉ key.toList) (hp : isBlank path = false) (d : Json) :
    d.at? (key ++ "." ++ path) = (d.get? key).bind (·.at? path) := by
  rw [at?_of_not_isBlank (not_isBlank_append_dot key path), segments_append_dot,
    segments_of_dot_notMem hk, List.singleton_append, follow?, bind_at?_of_not_isBlank hp]

/-- Objects within each other that lead along the keys from a document to a node of it. -/
inductive Chain : List String → Json → Json → Prop
  | here (j : Json) : Chain [] j j
  | into {key : String} {keys : List String} {members : List (String × Json)} {child node : Json}
      (mem : (key, child) ∈ members) (rest : Chain keys child node) :
      Chain (key :: keys) (object members) node

lemma follow?_eq_some_iff (hd : d.wellFormed = true) :
    follow? keys d = some n ↔ Chain keys d n := by
  constructor
  · intro h
    induction keys generalizing d with
    | nil =>
      cases h
      exact .here n
    | cons key keys ih =>
      obtain ⟨child, hchild, hrest⟩ := Option.bind_eq_some_iff.mp h
      obtain ⟨members, rfl, hmem⟩ := (get?_eq_some_iff hd).mp hchild
      exact .into hmem (ih (wellFormed_of_get? hd hchild) hrest)
  · intro h
    induction h with
    | here j => rfl
    | into mem rest ih =>
      have hchild := (get?_eq_some_iff hd).mpr ⟨_, rfl, mem⟩
      rw [follow?, hchild]
      exact ih (wellFormed_of_get? hd hchild)

lemma at?_eq_some_iff (hd : d.wellFormed = true) :
    d.at? path = some n ↔ isBlank path = false ∧ Chain (segments path) d n := by
  cases hp : isBlank path with
  | true => simp [at?, hp]
  | false => simp [at?_of_not_isBlank hp, follow?_eq_some_iff hd]

/-- What a path finds: the ends of the chains of objects along its keys, none for a blank path. -/
theorem at?_chains (hd : d.wellFormed = true) :
    (∀ p q, isBlank p = false → isBlank q = false →
      d.at? (p ++ "." ++ q) = (d.at? p).bind (·.at? q)) ∧
    (∀ path n, d.at? path = some n ↔ isBlank path = false ∧ Chain (segments path) d n) ∧
    (∀ path keys, segments path = keys ↔
      keys ≠ [] ∧ (∀ key ∈ keys, '.' ∉ key.toList) ∧ ".".intercalate keys = path) ∧
    (∀ keys n, (∀ key ∈ keys, '.' ∉ key.toList) → isBlank (".".intercalate keys) = false →
      (d.at? (".".intercalate keys) = some n ↔ Chain keys d n)) := by
  refine ⟨fun p q hp hq => at?_append_dot hp hq d, fun path n => at?_eq_some_iff hd,
    fun path keys => segments_eq_iff, fun keys n hdots hblank => ?_⟩
  have hne : keys ≠ [] := by
    rintro rfl
    exact absurd hblank (by decide)
  rw [at?_eq_some_iff hd, segments_intercalate hne hdots]
  simp [hblank]

/-- Keys may be empty or blank, and a null at the end of the chain is found. -/
theorem at?_chains_doubled_dot :
    let d := object [("a", object [("", object [(" ", null)])]), ("b", array [object []])]
    d.at? "a.. " = some null ∧ d.at? ("a" ++ "." ++ ". ") = (d.at? "a").bind (·.at? ". ") := by
  intro d
  have h := at?_chains (show d.wellFormed = true by decide)
  have hchain : Chain ["a", "", " "] d null :=
    .into (.head _) (.into (.head _) (.into (.head _) (.here null)))
  exact ⟨(h.2.2.2 ["a", "", " "] null (by decide) (by decide)).mpr hchain,
    h.1 "a" ". " (by decide) (by decide)⟩

end StepConditions.Json
