import Mathlib
import StepConditions.Proofs.Comparison
import StepConditions.Proofs.Members

/-!
# Accepted tokens

A token is looked up in lower case. Of the characters outside ASCII only one has a small form in
ASCII alone, the Kelvin sign with a `k`, and no token of the table has that letter. So it comes to
lowering the ASCII letters, and a token with any other character is not accepted.
-/
namespace StepConditions

namespace Text
variable {c : Char} {cs ds form : List Char}

/-- The lower-case forms of a character. A capital sigma has one of its own at the end of a word. -/
def smallForms (c : Char) : List (List Char) :=
  if c = 'Σ' then [['σ'], ['ς']] else [lowerChars [c]]

/-- A text in lower case, with any of its forms for each character. -/
inductive Lowered : List Char → List Char → Prop
  | nil : Lowered [] []
  | cons {c : Char} {cs ds form : List Char} (hform : form ∈ smallForms c) (h : Lowered cs ds) :
      Lowered (c :: cs) (form ++ ds)

/-- A visible ASCII character that is a small form of no character outside ASCII. -/
def Plain (c : Char) : Prop :=
  32 < c.toNat ∧ c.toNat < 127 ∧ c ≠ 'k'

instance : DecidablePred Plain := fun c =>
  inferInstanceAs (Decidable (32 < c.toNat ∧ c.toNat < 127 ∧ c ≠ 'k'))

/-- From the second run on, the small letters are outside ASCII but for that of the Kelvin sign. -/
lemma capitalRuns_shift : ∀ r ∈ capitalRuns,
    r.last < 128 ∨ (r.first = r.last ∧ r.first + r.shift = 107) ∨
      (128 ≤ r.first + r.shift ∧ r.last + r.shift < 0xD800) ∨
      (0xDFFF < r.first + r.shift ∧ r.last + r.shift < 0x110000) := by
  decide +kernel

lemma smallForms_ascii (h : c.toNat < 128) : smallForms c = [[c.toLower]] := by
  have hall : ∀ n < 128, smallForms (Char.ofNat n) = [[(Char.ofNat n).toLower]] := by decide +kernel
  have hc := hall c.toNat h
  rwa [Char.ofNat_toNat] at hc

lemma toNat_ofNat_of_isValidChar {n : ℕ} (h : n.isValidChar) : (Char.ofNat n).toNat = n := by
  rw [Char.ofNat, dif_pos h]
  rfl

lemma not_plain_lowerChar (h : 128 ≤ c.toNat) : ¬ Plain (lowerChar c) := by
  rw [lowerChar]
  cases hr : capitalRuns.find? (·.holds c.toNat) with
  | none =>
    rintro ⟨-, hlt, -⟩
    dsimp only at hlt
    omega
  | some r =>
    have hholds := List.find?_some hr
    simp only [CapitalRun.holds, Bool.and_eq_true, decide_eq_true_eq] at hholds
    obtain ⟨⟨hfirst, hlast⟩, -⟩ := hholds
    rintro ⟨-, hlt, hk⟩
    dsimp only at hlt hk
    rcases capitalRuns_shift r (List.mem_of_find?_eq_some hr) with hrun | hrun | hrun | hrun
    · omega
    · have hn : (c.toNat + r.shift).toNat = 107 := by omega
      rw [hn] at hk
      exact hk rfl
    · rw [toNat_ofNat_of_isValidChar (.inl (by omega))] at hlt
      omega
    · rw [toNat_ofNat_of_isValidChar (.inr ⟨by omega, by omega⟩)] at hlt
      omega

lemma exists_not_plain_of_smallForm (h : 128 ≤ c.toNat) (hform : form ∈ smallForms c) :
    ∃ d ∈ form, ¬ Plain d := by
  rw [smallForms] at hform
  split at hform
  · simp only [List.mem_cons, List.not_mem_nil, or_false] at hform
    rcases hform with rfl | rfl
    · exact ⟨'σ', by simp, by decide⟩
    · exact ⟨'ς', by simp, by decide⟩
  · rw [List.mem_singleton, lowerChars, List.flatMap_singleton] at hform
    subst hform
    split
    · exact ⟨'\u0307', by simp, by decide⟩
    · exact ⟨lowerChar c, by simp, not_plain_lowerChar h⟩

lemma toLower_of_not_capital (h : c.toNat < 65 ∨ 90 < c.toNat) : c.toLower = c := by
  have hupper : ¬ (c.val ≥ 'A'.val ∧ c.val ≤ 'Z'.val) := by
    intro hc
    have hfirst : 65 ≤ c.toNat := hc.1
    have hlast : c.toNat ≤ 90 := hc.2
    omega
  rw [Char.toLower, dif_neg hupper]

/-- Among plain texts the one in lower case is that with lowered ASCII letters. -/
lemma lowered_eq_iff (h : Lowered cs ds) (hd : ∀ c ∈ form, Plain c) :
    ds = form ↔ cs.map Char.toLower = form := by
  induction h generalizing form with
  | nil => rfl
  | @cons c cs ds small hsmall hlowered ih =>
    by_cases hc : c.toNat < 128
    · rw [smallForms_ascii hc, List.mem_singleton] at hsmall
      subst hsmall
      cases form with
      | nil => simp
      | cons d form =>
        have hform := ih (List.forall_mem_cons.mp hd).2
        simp [hform]
    · have hc : 128 ≤ c.toNat := Nat.not_lt.mp hc
      obtain ⟨d, hmem, hnot⟩ := exists_not_plain_of_smallForm hc hsmall
      constructor
      · rintro rfl
        exact absurd (hd d (by simp [hmem])) hnot
      · rintro rfl
        have hplain := hd c.toLower (by simp)
        rw [toLower_of_not_capital (by omega)] at hplain
        have := hplain.2.1
        omega

lemma lowered_lowerChars (cs : List Char) : Lowered cs (lowerChars cs) := by
  induction cs with
  | nil => exact .nil
  | cons c cs ih =>
    have hc : lowerChars (c :: cs) = lowerChars [c] ++ lowerChars cs := by simp [lowerChars]
    rw [hc]
    refine .cons ?_ ih
    by_cases hsigma : c = 'Σ'
    · subst hsigma
      decide
    · rw [smallForms, if_neg hsigma, List.mem_singleton]

lemma isSpace_of_visible (hfirst : 32 < c.toNat) (hlast : c.toNat < 127) : isSpace c = false := by
  have hranges : ∀ r ∈ spaceRanges, r.2 ≤ 32 ∨ 127 ≤ r.1 := by decide
  rw [isSpace, List.any_eq_false]
  intro r hr
  have hrange := hranges r hr
  simp only [Bool.and_eq_true, decide_eq_true_eq, not_and]
  omega

end Text

namespace Operator
open Text (lowerAscii Plain Lowered)
variable {token text : String} {op : Operator}

lemma plain_of_mem_tokens (h : (token, op) ∈ tokens) : ∀ c ∈ token.toList, Plain c := by
  have hall : ∀ t ∈ tokens, ∀ c ∈ t.1.toList, Plain c := by
    simp [tokens, Plain]
  exact hall _ h

/-- Either way of writing a sigma in lower case finds the same. -/
lemma getMember?_of_lowered (h : Lowered token.toList text.toList) :
    Json.getMember? text tokens = some op ↔ (lowerAscii token, op) ∈ tokens := by
  have hascii : (lowerAscii token).toList = token.toList.map Char.toLower := String.toList_ofList
  rw [Json.getMember?_eq_some_iff (by decide)]
  constructor
  · intro hmem
    have htext := (Text.lowered_eq_iff h (plain_of_mem_tokens hmem)).mp rfl
    rw [← hascii, String.toList_inj] at htext
    rwa [htext]
  · intro hmem
    have htext := (Text.lowered_eq_iff h (plain_of_mem_tokens hmem)).mpr hascii.symm
    rw [String.toList_inj] at htext
    rwa [htext]

lemma find?_eq_some_iff : find? token = some op ↔ (lowerAscii token, op) ∈ tokens := by
  refine getMember?_of_lowered ?_
  rw [Text.lower, String.toList_ofList]
  exact Text.lowered_lowerChars token.toList

lemma visible_of_mem_tokens (h : (lowerAscii token, op) ∈ tokens) {c : Char}
    (hc : c ∈ token.toList) : 32 < c.toNat ∧ c.toNat < 127 := by
  have hlower : c.toLower ∈ (lowerAscii token).toList := by
    rw [lowerAscii, String.toList_ofList]
    exact List.mem_map_of_mem hc
  have hplain := plain_of_mem_tokens h _ hlower
  by_cases hcapital : c.toNat < 65 ∨ 90 < c.toNat
  · rw [Text.toLower_of_not_capital hcapital] at hplain
    exact ⟨hplain.1, hplain.2.1⟩
  · omega

lemma parse_name (op : Operator) : parse op.name = .ok op := by
  have hname : (lowerAscii op.name, op) ∈ tokens := by cases op <;> decide
  simp only [parse, find?_eq_some_iff.mpr hname]

/-- A token finds an operator exactly if it is an entry of the table up to the case of ASCII
letters, whichever lower-case form is taken for a sigma. It has ASCII characters only then, none of
them white space, and as many as the entry. The name of an operator is one of its tokens, and tokens
of one operator hold between the same values. -/
theorem tokens_exact :
    (∀ token op, find? token = some op ↔ (lowerAscii token, op) ∈ tokens) ∧
      (∀ token text op, Lowered token.toList text.toList →
        (Json.getMember? text tokens = some op ↔ (lowerAscii token, op) ∈ tokens)) ∧
      (∀ token op, find? token = some op →
        (∀ c ∈ token.toList, c.toNat < 128 ∧ Text.isSpace c = false) ∧
          ∃ word, (word, op) ∈ tokens ∧ word.length = token.length) ∧
      (∀ op, parse op.name = .ok op) ∧
      ∀ t u op, find? t = some op → find? u = some op → ∀ a b,
        evaluate a (some t) b = op.holds a b ∧ evaluate a (some t) b = evaluate a (some u) b := by
  refine ⟨fun token op => find?_eq_some_iff, fun token text op h => getMember?_of_lowered h,
    fun token op h => ⟨fun c hc => ?_, ?_⟩, parse_name, fun t u op ht hu a b => ?_⟩
  · obtain ⟨hfirst, hlast⟩ := visible_of_mem_tokens (find?_eq_some_iff.mp h) hc
    exact ⟨by omega, Text.isSpace_of_visible hfirst hlast⟩
  · refine ⟨lowerAscii token, find?_eq_some_iff.mp h, ?_⟩
    rw [lowerAscii, String.length_ofList, List.length_map, String.length_toList]
  · refine ⟨Value.evaluate_of_find? ht a b, ?_⟩
    rw [Value.evaluate_of_find? ht, Value.evaluate_of_find? hu]

/-- A word and a symbol of one operator, and a sigma at the end of a word. -/
theorem tokens_exact_mixed_case :
    (Lowered "<Σ".toList "<ς".toList ∧
      (Json.getMember? "<ς" tokens = some less ↔ (lowerAscii "<Σ", less) ∈ tokens)) ∧
      (find? "GreaterOrEqual" = some .greaterOrEqual ∧
        (∀ c ∈ "GreaterOrEqual".toList, c.toNat < 128 ∧ Text.isSpace c = false) ∧
          ∃ word, (word, greaterOrEqual) ∈ tokens ∧ word.length = "GreaterOrEqual".length) ∧
      find? ">=" = some .greaterOrEqual ∧
      evaluate (.int 3) (some "GreaterOrEqual") (.int 2) =
        evaluate (.int 3) (some ">=") (.int 2) := by
  obtain ⟨-, hforms, hcharacters, -, hsame⟩ := tokens_exact
  have hsigma : Lowered "<Σ".toList "<ς".toList :=
    @Lowered.cons '<' ['Σ'] ['ς'] ['<'] (by decide)
      (@Lowered.cons 'Σ' [] [] ['ς'] (by decide) .nil)
  have hword : find? "GreaterOrEqual" = some .greaterOrEqual := rfl
  have hsymbol : find? ">=" = some .greaterOrEqual := rfl
  exact ⟨⟨hsigma, hforms _ _ _ hsigma⟩, ⟨hword, hcharacters _ _ hword⟩, hsymbol,
    (hsame _ _ _ hword hsymbol _ _).2⟩

end Operator

end StepConditions
