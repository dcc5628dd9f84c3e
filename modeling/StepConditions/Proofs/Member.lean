import Mathlib
import StepConditions.Payload.Gzip

/-!
# Members read back

The blocks of a stream hold bytes as they are, so reading them one after the other gives the bytes
again and stops where the stream ends. Of what follows the stream only the eight bytes of the
trailer are looked at, and the member counts if these are the ones that belong to its bytes.
-/
namespace StepConditions.Payload
variable {k n : ℕ} {front rest bytes block : List UInt8}

@[simp] lemma length_littleEndian (k n : ℕ) : (littleEndian k n).length = k := by
  induction k generalizing n with
  | zero => rfl
  | succ k ih => simp [littleEndian, ih]

lemma ofLittleEndian_littleEndian (k n : ℕ) : ofLittleEndian (littleEndian k n) = n % 256 ^ k := by
  induction k generalizing n with
  | zero => simp [littleEndian, ofLittleEndian, Nat.mod_one]
  | succ k ih =>
    have hbyte : (UInt8.ofNat n).toNat = n % 256 := UInt8.toNat_ofNat'
    rw [littleEndian, ofLittleEndian, ih, hbyte, pow_succ', Nat.mod_mul]

lemma takeBytes?_append (h : front.length = k) :
    takeBytes? k (front ++ rest) = some (front, rest) := by
  subst h
  simp [takeBytes?]

lemma takeNumber?_append (k n : ℕ) (rest : List UInt8) :
    takeNumber? k (littleEndian k n ++ rest) = some (n % 256 ^ k, rest) := by
  simp [takeNumber?, takeBytes?_append, ofLittleEndian_littleEndian]

namespace Deflate
variable {out : Array UInt8} {fuel more : ℕ} {final : Bool}

/-- The first byte of a block is its three bits, the lowest of them for the final block. -/
lemma number?_storedBlock (final : Bool) (xs : List UInt8) :
    ∃ s s', BitStream.number? 1 ⟨[], (if final then 1 else 0) :: xs⟩ = some (final.toNat, s) ∧
      s.number? 2 = some (0, s') ∧ s'.bytes = xs := by
  cases final <;> exact ⟨_, _, rfl, rfl, rfl⟩

lemma readStored?_append (hb : block.length ≤ blockLimit) {s : BitStream}
    (hs : s.bytes = littleEndian 2 block.length ++
      (littleEndian 2 (0xFFFF - block.length) ++ (block ++ rest))) :
    readStored? out s = some (out ++ block, ⟨[], rest⟩) := by
  have hcount : block.length % 256 ^ 2 = block.length := by
    unfold blockLimit at hb
    omega
  have hcomplement : (0xFFFF - block.length) % 256 ^ 2 = 0xFFFF - block.length := by omega
  have hsum : block.length + (0xFFFF - block.length) = 0xFFFF := by
    unfold blockLimit at hb
    omega
  simp only [readStored?, BitStream.align, hs, takeNumber?_append, hcount, hcomplement, hsum,
    if_true, takeBytes?_append, Option.map_some]

lemma readBlocks?_storedBlock (hb : block.length ≤ blockLimit) (final : Bool) (fuel : ℕ) :
    readBlocks? out (fuel + 1) ⟨[], storedBlock final block ++ rest⟩ =
      if final then some (out ++ block, ⟨[], rest⟩) else readBlocks? (out ++ block) fuel ⟨[], rest⟩ := by
  obtain ⟨s, s', hfinal, htype, hbytes⟩ := number?_storedBlock final
    (littleEndian 2 block.length ++ (littleEndian 2 (0xFFFF - block.length) ++ (block ++ rest)))
  have hbytes' : storedBlock final block ++ rest = (if final then 1 else 0) ::
      (littleEndian 2 block.length ++ (littleEndian 2 (0xFFFF - block.length) ++ (block ++ rest))) := by
    simp only [storedBlock, List.cons_append, List.append_assoc]
  have hread : readBlock? 0 out s' = some (out ++ block, ⟨[], rest⟩) :=
    readStored?_append hb hbytes
  rw [hbytes', readBlocks?, hfinal]
  simp only [htype]
  simp only [hread]
  cases final
  · simp
  · simp

lemma readBlocks?_deflateAux (hb : bytes.length ≤ (more + 1) * blockLimit) (hf : more < fuel) :
    readBlocks? out fuel ⟨[], deflateAux more bytes ++ rest⟩ = some (out ++ bytes, ⟨[], rest⟩) := by
  induction more generalizing out fuel bytes with
  | zero =>
    obtain ⟨fuel, rfl⟩ := Nat.exists_eq_add_of_lt hf
    rw [deflateAux, Nat.zero_add, readBlocks?_storedBlock (by omega), if_pos rfl]
  | succ more ih =>
    cases fuel with
    | zero => omega
    | succ fuel =>
      have htake : (bytes.take blockLimit).length ≤ blockLimit := List.length_take_le ..
      have hdrop : (bytes.drop blockLimit).length ≤ (more + 1) * blockLimit := by
        rw [List.length_drop]
        rw [Nat.succ_mul] at hb
        omega
      rw [deflateAux, List.append_assoc, readBlocks?_storedBlock htake, if_neg (by decide),
        ih hdrop (by omega)]
      have happend : out ++ bytes.take blockLimit ++ bytes.drop blockLimit = out ++ bytes := by
        simp [← Array.toList_inj]
      rw [happend]

/-- Each block takes up at least a byte, so that the length of a stream counts its blocks. -/
lemma lt_length_deflateAux (more : ℕ) (bytes : List UInt8) :
    more < (deflateAux more bytes).length := by
  induction more generalizing bytes with
  | zero => simp [deflateAux, storedBlock]
  | succ more ih =>
    have := ih (bytes.drop blockLimit)
    simp only [deflateAux, storedBlock, List.length_append, List.length_cons]
    omega

/-- A stream gives its bytes and leaves what is behind it. -/
theorem inflate?_deflate_append (bytes rest : List UInt8) :
    inflate? (deflate bytes ++ rest) = some (bytes, rest) := by
  have hb : bytes.length ≤ ((bytes.length - 1) / blockLimit + 1) * blockLimit := by
    unfold blockLimit
    omega
  have hf := lt_length_deflateAux ((bytes.length - 1) / blockLimit) bytes
  rw [inflate?, deflate, readBlocks?_deflateAux hb]
  · simp
  · rw [List.length_append]
    omega

end Deflate

namespace Gzip

lemma skipHeader?_header (bytes : List UInt8) : skipHeader? (header ++ bytes) = some bytes := rfl

@[simp] lemma length_trailer (bytes : List UInt8) : (trailer bytes).length = 8 := by
  simp [trailer]

/-- Behind the stream a member is decided by its next eight bytes. -/
lemma unwrap?_header_append (bytes : List UInt8) :
    unwrap? (header ++ bytes) = (Deflate.inflate? bytes).bind fun p =>
      (takeBytes? 8 p.2).bind fun t => if t.1 = trailer p.1 then some p.1 else none := by
  simp only [unwrap?, skipHeader?_header, Option.bind_eq_bind, Option.bind_some]

theorem unwrap?_wrap (bytes : List UInt8) : unwrap? (wrap bytes) = some bytes := by
  have htrailer : takeBytes? 8 (trailer bytes ++ []) = some (trailer bytes, []) :=
    takeBytes?_append (length_trailer bytes)
  rw [List.append_nil] at htrailer
  rw [wrap, List.append_assoc, unwrap?_header_append, Deflate.inflate?_deflate_append]
  simp [htrailer]

end Gzip

end StepConditions.Payload
