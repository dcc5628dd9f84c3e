import Mathlib
import StepConditions.Proofs.LongerInput
import StepConditions.Proofs.PackedText

/-!
# Damaged payloads

A member may hold any stream that stands for its bytes. With another trailer behind the stream, or
cut short anywhere, it is not unpacked: a stream that seemed to end before the cut would end there
in the whole member too, and its trailer would be incomplete.
-/
namespace StepConditions.Payload
variable {stream bytes b p last : List UInt8}

namespace Gzip

/-- A member of the bytes: the header, a stream that stands for them, and their trailer. -/
def Member (bytes b : List UInt8) : Prop :=
  ∃ stream, Deflate.inflate? stream = some (bytes, []) ∧ b = header ++ (stream ++ trailer bytes)

lemma member_wrap (bytes : List UInt8) : Member bytes (wrap bytes) := by
  have hs := Deflate.inflate?_deflate_append bytes []
  rw [List.append_nil] at hs
  exact ⟨Deflate.deflate bytes, hs, List.append_assoc ..⟩

lemma magic_prefix_of_member (h : Member bytes b) : magic <+: b := by
  obtain ⟨stream, -, rfl⟩ := h
  exact ⟨[8, 0, 0, 0, 0, 0, 0, 0xFF] ++ (stream ++ trailer bytes), rfl⟩

lemma unwrap?_of_trailer_ne (hs : Deflate.inflate? stream = some (bytes, []))
    (hl : last.length = 8) (hne : last ≠ trailer bytes) :
    unwrap? (header ++ (stream ++ last)) = none := by
  have htake : takeBytes? 8 (last ++ []) = some (last, []) := takeBytes?_append hl
  rw [List.append_nil] at htake
  rw [unwrap?_header_append, Deflate.inflate?_append hs last]
  simp [htake, hne]

lemma skipHeader?_of_length_lt (h : p.length < header.length) : skipHeader? p = none := by
  unfold skipHeader?
  split
  next =>
    simp only [header, List.length_cons, List.length_nil] at h
    omega
  next => rfl

lemma takeBytes?_of_length_lt {k : ℕ} (h : bytes.length < k) : takeBytes? k bytes = none := by
  cases ht : takeBytes? k bytes with
  | none => rfl
  | some t =>
    obtain ⟨hk, rfl⟩ := takeBytes?_eq_some_iff.mp ht
    rw [List.length_append] at h
    omega

/-- A stream that is read from a part of a member leaves a part of the trailer. -/
lemma unwrap?_of_prefix {rest : List UInt8} (h : Member bytes (p ++ rest)) (hr : rest ≠ []) :
    unwrap? p = none := by
  obtain ⟨stream, hs, hb⟩ := h
  by_cases hp : p.length < header.length
  · simp only [unwrap?, skipHeader?_of_length_lt hp, Option.bind_eq_bind, Option.bind_none]
  · have hheader : header <+: p := by
      apply List.prefix_of_prefix_length_le (List.prefix_append header (stream ++ trailer bytes))
      · rw [← hb]
        exact List.prefix_append p rest
      · omega
    obtain ⟨q, rfl⟩ := hheader
    have hq : q ++ rest = stream ++ trailer bytes := by
      simpa only [List.append_assoc, List.append_cancel_left_eq] using hb
    rw [unwrap?_header_append]
    cases hread : Deflate.inflate? q with
    | none => rfl
    | some r =>
      obtain ⟨out, left⟩ := r
      have hwhole : some (out, left ++ rest) = some (bytes, trailer bytes) := by
        rw [← Deflate.inflate?_append hread rest, hq, Deflate.inflate?_append hs, List.nil_append]
      have hleft : left.length < 8 := by
        have hlength := congrArg List.length (Prod.mk.inj (Option.some.inj hwhole)).2
        rw [List.length_append, length_trailer] at hlength
        have := List.length_pos_iff.mpr hr
        omega
      simp only [Option.bind_some, takeBytes?_of_length_lt hleft, Option.bind_none]

end Gzip

lemma unpackBytes_of_unwrap?_eq_none (hm : Gzip.magic <+: p) (h : Gzip.unwrap? p = none) :
    unpackBytes p = .error .damaged := by
  rw [unpackBytes, if_pos (List.isPrefixOf_iff_prefix.mpr hm), h]

lemma unpackBytes_of_not_magic (h : ¬ Gzip.magic <+: p) : unpackBytes p = .error .notGzip := by
  rw [unpackBytes, if_neg (by rwa [List.isPrefixOf_iff_prefix])]

/-- The Base64 form of a member is not unpacked when its last eight bytes are others, when it lacks
some bytes at its end, or when one of its first two bytes is another. The packed form of a text is
one such member, whatever stream it holds. -/
theorem unpack_damaged (text : String) (ht : text ≠ "") :
    (∃ b, pack text = String.ofList (Base64.encode b) ∧ Gzip.Member (Text.utf8 text) b) ∧
      ∀ b, Gzip.Member (Text.utf8 text) b →
        (∀ front last last', b = front ++ last → last.length = 8 → last'.length = 8 →
          last' ≠ last → unpack (String.ofList (Base64.encode (front ++ last'))) =
            .error .damaged) ∧
        (∀ p rest, b = p ++ rest → rest ≠ [] → 2 ≤ p.length →
          unpack (String.ofList (Base64.encode p)) = .error .damaged) ∧
        (∀ x y x' y' rest, b = x :: y :: rest → x' ≠ x ∨ y' ≠ y →
          unpack (String.ofList (Base64.encode (x' :: y' :: rest))) = .error .notGzip) := by
  refine ⟨⟨_, pack_of_ne ht, Gzip.member_wrap _⟩, fun b hb => ⟨?_, ?_, ?_⟩⟩
  · rintro front last last' rfl hl hl' hne
    obtain ⟨stream, hs, heq⟩ := hb
    rw [← List.append_assoc] at heq
    obtain ⟨rfl, rfl⟩ := List.append_inj' heq (by rw [hl, Gzip.length_trailer])
    have hmagic : Gzip.magic <+: Gzip.header ++ stream ++ last' :=
      ⟨[8, 0, 0, 0, 0, 0, 0, 0xFF] ++ (stream ++ last'), rfl⟩
    rw [unpack_encode (by simp [Gzip.header])]
    apply unpackBytes_of_unwrap?_eq_none hmagic
    rw [List.append_assoc]
    exact Gzip.unwrap?_of_trailer_ne hs hl' hne
  · rintro p rest rfl hr hp
    have hmagic : Gzip.magic <+: p :=
      List.prefix_of_prefix_length_le (Gzip.magic_prefix_of_member hb) ⟨rest, rfl⟩ hp
    rw [unpack_encode (by rintro rfl; simp at hp)]
    exact unpackBytes_of_unwrap?_eq_none hmagic (Gzip.unwrap?_of_prefix hb hr)
  · rintro x y x' y' rest rfl hne
    obtain ⟨hx, hy⟩ : x = 0x1F ∧ y = 0x8B := by
      simpa [Gzip.magic, eq_comm] using Gzip.magic_prefix_of_member hb
    rw [unpack_encode (List.cons_ne_nil _ _)]
    apply unpackBytes_of_not_magic
    subst hx hy
    simp only [Gzip.magic, List.cons_prefix_cons, List.nil_prefix, and_true, not_and_or]
    exact hne.imp Ne.symm Ne.symm

/-- Ten letters in a stream of two literals and a copy, which is not the one that is written. -/
theorem unpack_damaged_copy :
    let stream : List UInt8 := [0x4B, 0x4C, 0x84, 0x01, 0x00]
    let bytes := Text.utf8 "aaaaaaaaaa"
    unpack (String.ofList (Base64.encode (Gzip.header ++ stream ++ List.replicate 8 0))) =
        .error .damaged ∧
      unpack (String.ofList (Base64.encode (Gzip.header ++ stream))) = .error .damaged ∧
      unpack (String.ofList (Base64.encode (0x1F :: 0x8A ::
        (Gzip.header.drop 2 ++ stream ++ Gzip.trailer bytes)))) = .error .notGzip := by
  intro stream bytes
  have hmember : Gzip.Member bytes (Gzip.header ++ (stream ++ Gzip.trailer bytes)) :=
    ⟨stream, by decide +kernel, rfl⟩
  have hdamaged := (unpack_damaged "aaaaaaaaaa" (by decide)).2 _ hmember
  refine ⟨?_, ?_, ?_⟩
  · exact hdamaged.1 (Gzip.header ++ stream) (Gzip.trailer bytes) (List.replicate 8 0)
      (List.append_assoc ..).symm (Gzip.length_trailer bytes) rfl (by decide +kernel)
  · exact hdamaged.2.1 (Gzip.header ++ stream) (Gzip.trailer bytes)
      (List.append_assoc ..).symm (by decide +kernel) (by decide)
  · exact hdamaged.2.2 0x1F 0x8B 0x1F 0x8A _ rfl (.inr (by decide))

end StepConditions.Payload
