import Mathlib
import StepConditions.Text.Blank
import StepConditions.Text.Utf8

/-!
# White space around a text, and its bytes

White space at the ends of a text makes no difference after trimming, and bytes are read as a text
exactly if they are the bytes of that text.
-/
namespace StepConditions.Text
variable {before after cs : List Char} {b : List UInt8} {s : String}

lemma dropWhile_isSpace_append (h : ∀ c ∈ before, isSpace c = true) (cs : List Char) :
    (before ++ cs).dropWhile isSpace = cs.dropWhile isSpace :=
  List.dropWhile_append_of_pos h

/-- White space around a text is trimmed with what the text itself has at its ends. -/
lemma trimChars_append_append (hb : ∀ c ∈ before, isSpace c = true)
    (ha : ∀ c ∈ after, isSpace c = true) (cs : List Char) :
    trimChars (before ++ cs ++ after) = trimChars cs := by
  have ha' : ∀ c ∈ after.reverse, isSpace c = true := fun c hc => ha c (List.mem_reverse.mp hc)
  rw [trimChars, trimChars, List.append_assoc, dropWhile_isSpace_append hb]
  by_cases hcs : ∀ c ∈ cs, isSpace c = true
  · have hnil : ∀ ds : List Char, (∀ c ∈ ds, isSpace c = true) → ds.dropWhile isSpace = [] :=
      fun ds => List.dropWhile_eq_nil_iff.mpr
    rw [hnil cs hcs, hnil (cs ++ after) (List.forall_mem_append.mpr ⟨hcs, ha⟩)]
  · rw [List.dropWhile_append, if_neg, List.reverse_append, dropWhile_isSpace_append ha']
    simpa using hcs

lemma trimChars_of_forall (h : ∀ c ∈ cs, isSpace c = false) : trimChars cs = cs := by
  have hdrop : ∀ ds : List Char, (∀ c ∈ ds, c ∈ cs) → ds.dropWhile isSpace = ds := by
    intro ds hds
    cases ds with
    | nil => rfl
    | cons d ds => simp [h d (hds d List.mem_cons_self)]
  rw [trimChars, hdrop cs fun _ => id, hdrop _ fun c => List.mem_reverse.mp, List.reverse_reverse]

lemma isBlank_iff : isBlank s = true ↔ ∀ c ∈ s.toList, isSpace c = true :=
  List.all_eq_true

/-- A text is read from its own bytes, and from no others. -/
theorem ofUtf8_eq_ok_iff : ofUtf8 b = .ok s ↔ b = utf8 s := by
  have hbytes : (⟨b.toArray⟩ : ByteArray) = s.toByteArray ↔ b = utf8 s := by
    rw [ByteArray.ext_iff]
    simp [utf8, ← Array.toList_inj]
  rw [← hbytes, ofUtf8, String.fromUTF8?]
  split
  next t ht =>
    split at ht
    · cases ht
      simp [← String.toByteArray_inj, String.fromUTF8]
    · cases ht
  next ht =>
    split at ht
    · cases ht
    next hv =>
      simp only [reduceCtorEq, false_iff]
      intro h
      exact hv (h ▸ s.isValidUTF8)

end StepConditions.Text
