import Mathlib
import StepConditions.Text.Entity

/-!
# Escaped text reads back

Escaped text has no significant character in it other than the ampersands of its entities. So it can
be read from left to right, an entity at each ampersand, which gives back the text that was escaped.
-/
namespace StepConditions.Text
variable {c : Char} {cs before after : List Char}

/-- The characters besides the ampersand that are written as entities. -/
def significant : List Char :=
  ['<', '>', '"', '\'']

def entities : List (List Char) :=
  ["&amp;".toList, "&lt;".toList, "&gt;".toList, "&quot;".toList, "&#39;".toList]

/-- Puts characters for their entities from left to right. -/
def unescapeChars : List Char → List Char
  | '&' :: 'a' :: 'm' :: 'p' :: ';' :: rest => '&' :: unescapeChars rest
  | '&' :: 'l' :: 't' :: ';' :: rest => '<' :: unescapeChars rest
  | '&' :: 'g' :: 't' :: ';' :: rest => '>' :: unescapeChars rest
  | '&' :: 'q' :: 'u' :: 'o' :: 't' :: ';' :: rest => '"' :: unescapeChars rest
  | '&' :: '#' :: '3' :: '9' :: ';' :: rest => '\'' :: unescapeChars rest
  | c :: rest => c :: unescapeChars rest
  | [] => []

def replaceEntities (s : String) : String :=
  String.ofList (unescapeChars s.toList)

lemma unescapeChars_cons (h : c ≠ '&') : unescapeChars (c :: cs) = c :: unescapeChars cs := by
  rw [unescapeChars]
  all_goals
    intro _ hc
    exact absurd hc h

/-- Five characters are written as the five entities and any other one as itself. -/
lemma entity_cases (c : Char) :
    (c ∈ '&' :: significant ∧ entity c ∈ entities) ∨
      (c ∉ '&' :: significant ∧ entity c = [c]) := by
  unfold entity
  split <;> simp_all [significant, entities]

lemma notMem_entity (hc : c ∈ significant) (d : Char) : c ∉ entity d := by
  have hentities : ∀ c ∈ significant, ∀ e ∈ entities, c ∉ e := by
    simp [significant, entities]
  rcases entity_cases d with ⟨-, hd⟩ | ⟨hd, heq⟩
  · exact hentities c hc _ hd
  · rw [heq, List.mem_singleton]
    intro hcd
    exact hd (hcd ▸ List.mem_cons_of_mem _ hc)

/-- An ampersand in what is written for one character begins an entity. -/
lemma amp_entity (h : entity c = before ++ '&' :: after) : before = [] ∧ entity c ∈ entities := by
  have htail : ∀ e ∈ entities, '&' ∉ e.tail := by decide
  rcases entity_cases c with ⟨-, hc⟩ | ⟨hc, heq⟩
  · cases before with
    | nil => exact ⟨rfl, hc⟩
    | cons b bs => simpa [h] using htail _ hc
  · have hmem : '&' ∈ entity c := by simp [h]
    rw [heq, List.mem_singleton] at hmem
    exact absurd (hmem ▸ List.mem_cons_self) hc

lemma escapeChars_append (cs ds : List Char) :
    escapeChars (cs ++ ds) = escapeChars cs ++ escapeChars ds :=
  List.flatMap_append

lemma notMem_escapeChars (hc : c ∈ significant) (cs : List Char) : c ∉ escapeChars cs := by
  intro h
  obtain ⟨d, -, hd⟩ := List.mem_flatMap.mp h
  exact notMem_entity hc d hd

lemma entity_at_amp (h : escapeChars cs = before ++ '&' :: after) :
    ∃ e ∈ entities, e <+: '&' :: after := by
  induction cs generalizing before with
  | nil => simp [escapeChars] at h
  | cons c cs ih =>
    have hc : entity c ++ escapeChars cs = before ++ '&' :: after := h
    rcases List.append_eq_append_iff.mp hc with ⟨later, rfl, hcs⟩ | ⟨rest, hfirst, hrest⟩
    · exact ih hcs
    · cases rest with
      | nil => exact @ih [] hrest.symm
      | cons d rest =>
        obtain ⟨rfl, hrest⟩ := List.cons.inj hrest
        obtain ⟨rfl, hmem⟩ := amp_entity hfirst
        refine ⟨entity c, hmem, escapeChars cs, ?_⟩
        rw [hfirst, hrest, List.nil_append, List.cons_append]

lemma unescapeChars_entity (c : Char) (cs : List Char) :
    unescapeChars (entity c ++ cs) = c :: unescapeChars cs := by
  unfold entity
  split
  case h_6 hc _ _ _ _ => exact unescapeChars_cons hc
  all_goals simp [unescapeChars]

lemma unescapeChars_escapeChars (cs : List Char) : unescapeChars (escapeChars cs) = cs := by
  induction cs with
  | nil => rfl
  | cons c cs ih =>
    have hc : escapeChars (c :: cs) = entity c ++ escapeChars cs := rfl
    rw [hc, unescapeChars_entity, ih]

/-- Escaped text has none of the other significant characters and begins an entity at each of its
ampersands. Characters put for the entities give the text back, and a text is escaped piece by
piece. -/
theorem escapeEntities_reversible :
    (∀ x, (∀ c ∈ significant, c ∉ (escapeEntities x).toList) ∧
      (∀ before after, (escapeEntities x).toList = before ++ '&' :: after →
        ∃ e ∈ entities, e <+: '&' :: after) ∧
      replaceEntities (escapeEntities x) = x) ∧
      Function.Injective escapeEntities ∧
      ∀ x y, escapeEntities (x ++ y) = escapeEntities x ++ escapeEntities y := by
  have hback : Function.LeftInverse replaceEntities escapeEntities := by
    intro x
    rw [replaceEntities, escapeEntities, String.toList_ofList, unescapeChars_escapeChars,
      String.ofList_toList]
  refine ⟨fun x => ⟨fun c hc => ?_, fun before after h => ?_, hback x⟩, ?_, fun x y => ?_⟩
  · rw [escapeEntities, String.toList_ofList]
    exact notMem_escapeChars hc x.toList
  · rw [escapeEntities, String.toList_ofList] at h
    exact entity_at_amp h
  · exact hback.injective
  · rw [escapeEntities, String.toList_append, escapeChars_append, String.ofList_append,
      ← escapeEntities, ← escapeEntities]

/-- Text that has an entity and the beginning of another one in it already. -/
theorem escapeEntities_reversible_entities :
    ('<' ∈ significant ∧ '<' ∉ (escapeEntities "&lt;<&a").toList) ∧
      (escapeEntities "&lt;<&a").toList = "&amp;lt;".toList ++ '&' :: "lt;&amp;a".toList ∧
      (∃ e ∈ entities, e <+: '&' :: "lt;&amp;a".toList) ∧
      replaceEntities (escapeEntities "&lt;<&a") = "&lt;<&a" := by
  obtain ⟨hall, -, -⟩ := escapeEntities_reversible
  obtain ⟨hnone, hamp, hback⟩ := hall "&lt;<&a"
  have hescaped : (escapeEntities "&lt;<&a").toList =
      "&amp;lt;".toList ++ '&' :: "lt;&amp;a".toList := by decide
  exact ⟨⟨by decide, hnone '<' (by decide)⟩, hescaped, hamp _ _ hescaped, hback⟩

end StepConditions.Text
