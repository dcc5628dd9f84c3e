import Mathlib
import StepConditions.Payload.Pack
import StepConditions.Proofs.Base64
import StepConditions.Proofs.Member
import StepConditions.Proofs.Text

/-!
# Packed texts unpacked

Unpacking gives every text back from its packed form, whatever white space stands around that.
-/
namespace StepConditions.Payload
variable {text before after : String} {d : Char} {bytes : List UInt8}

lemma isSpace_digit : ∀ n < 64, Text.isSpace (Base64.digit n) = false := by
  decide

lemma isSpace_of_mem_encode (h : d ∈ Base64.encode bytes) :
    Text.isSpace d = false := by
  rcases Base64.mem_encode h with rfl | ⟨n, hn, rfl⟩
  · rfl
  · exact isSpace_digit n hn

lemma pack_of_ne (h : text ≠ "") :
    pack text = String.ofList (Base64.encode (Gzip.wrap (Text.utf8 text))) := by
  rw [pack, if_neg (by simpa using h)]

lemma encode_ne_nil (h : bytes ≠ []) : Base64.encode bytes ≠ [] := by
  intro he
  have hbytes := Base64.decode_encode bytes
  rw [he] at hbytes
  cases hbytes
  exact h rfl

/-- The Base64 form of some bytes holds no white space that could be taken off it. -/
lemma unpack_encode (h : bytes ≠ []) :
    unpack (String.ofList (Base64.encode bytes)) = unpackBytes bytes := by
  have hspace : ∀ d ∈ Base64.encode bytes, Text.isSpace d = false :=
    fun _ => isSpace_of_mem_encode
  have htrim := Text.trimChars_of_forall hspace
  have hempty : (Base64.encode bytes).isEmpty = false := by
    simpa using encode_ne_nil h
  simp only [unpack, String.toList_ofList, htrim, hempty, Base64.decode_encode]
  rfl

lemma unpackBytes_wrap (text : String) : unpackBytes (Gzip.wrap (Text.utf8 text)) = .ok text := by
  have hmagic : Gzip.magic.isPrefixOf (Gzip.wrap (Text.utf8 text)) = true := rfl
  have htext : Text.ofUtf8 (Text.utf8 text) = .ok text := Text.ofUtf8_eq_ok_iff.mpr rfl
  simp only [unpackBytes, hmagic, Gzip.unwrap?_wrap, htext, if_true, Except.mapError]

lemma unpack_pack (text : String) : unpack (pack text) = .ok text := by
  by_cases h : text = ""
  · subst h
    rfl
  · have hne : Gzip.wrap (Text.utf8 text) ≠ [] := by simp [Gzip.wrap, Gzip.header]
    rw [pack_of_ne h, unpack_encode hne, unpackBytes_wrap]

/-- White space around a packed text is no part of it. -/
lemma unpack_append_append (hb : Text.isBlank before = true) (ha : Text.isBlank after = true)
    (packed : String) : unpack (before ++ packed ++ after) = unpack packed := by
  have htrim := Text.trimChars_append_append (Text.isBlank_iff.mp hb) (Text.isBlank_iff.mp ha)
    packed.toList
  simp only [unpack, String.toList_append, htrim]

/-- Between any white space the packed form gives its text, so that different texts have different
forms and only the empty text has the empty one. -/
theorem packed_texts :
    (∀ text before after : String, Text.isBlank before = true → Text.isBlank after = true →
      unpack (before ++ pack text ++ after) = .ok text) ∧
    Function.Injective pack ∧ ∀ text, pack text = "" ↔ text = "" := by
  have hinj : Function.Injective pack := by
    intro s t hst
    have h := congrArg unpack hst
    rw [unpack_pack, unpack_pack] at h
    exact Except.ok.inj h
  refine ⟨?_, hinj, fun text => hinj.eq_iff' rfl⟩
  intro text before after hb ha
  rw [unpack_append_append hb ha, unpack_pack]

theorem packed_texts_between_spaces :
    Text.isBlank "\u2003" = true ∧ Text.isBlank "\n" = true ∧
      unpack ("\u2003" ++ pack "[]" ++ "\n") = .ok "[]" := by
  have hb : Text.isBlank "\u2003" = true := by cbv
  have ha : Text.isBlank "\n" = true := by cbv
  exact ⟨hb, ha, packed_texts.1 "[]" "\u2003" "\n" hb ha⟩

end StepConditions.Payload
