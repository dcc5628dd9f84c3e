import Mathlib
import StepConditions.Payload.Base64

/-!
# Base64 read back

Groups of three bytes are four digits and the last group may be padded; reading the digits gives the
bytes again.
-/
namespace StepConditions.Payload.Base64
variable {a b c d : Char} {cs : List Char} {bytes more : List UInt8} {w x y z : ℕ}

lemma digitValue?_digit : ∀ n < 64, digitValue? (digit n) = some n := by
  decide

lemma digit_ne_pad : ∀ n < 64, digit n ≠ '=' := by
  decide

lemma decodeLast_digits (hw : w < 64) (hx : x < 64) (hy : y < 64) (hz : z < 64) :
    decodeLast (digit w) (digit x) (digit y) (digit z) =
      some [UInt8.ofNat ((((w * 64 + x) * 64 + y) * 64 + z) / 65536),
        UInt8.ofNat ((((w * 64 + x) * 64 + y) * 64 + z) / 256 % 256),
        UInt8.ofNat ((((w * 64 + x) * 64 + y) * 64 + z) % 256)] := by
  simp [decodeLast, digitValue?_digit, digit_ne_pad, hw, hx, hy, hz]

lemma decodeLast_one_pad (hw : w < 64) (hx : x < 64) (hy : y < 64)
    (h : ((w * 64 + x) * 64 + y) % 4 = 0) :
    decodeLast (digit w) (digit x) (digit y) '=' =
      some [UInt8.ofNat (((w * 64 + x) * 64 + y) / 1024),
        UInt8.ofNat (((w * 64 + x) * 64 + y) / 4 % 256)] := by
  simp [decodeLast, digitValue?_digit, digit_ne_pad, hw, hx, hy, h]

lemma decodeLast_two_pads (hw : w < 64) (hx : x < 64) (h : (w * 64 + x) % 16 = 0) :
    decodeLast (digit w) (digit x) '=' '=' = some [UInt8.ofNat ((w * 64 + x) / 16)] := by
  simp [decodeLast, digitValue?_digit, hw, hx, h]

lemma decode_cons (h : decodeGroup a b c d = some bytes) (hcs : decode cs = some more) :
    decode (a :: b :: c :: d :: cs) = some (bytes ++ more) := by
  cases cs with
  | nil =>
    cases hcs
    rw [decodeGroup] at h
    split at h
    · cases h
    · simpa [decode] using h
  | cons e cs => simp [decode, h, hcs]

lemma ofNat_of_eq_toNat {n : ℕ} {u : UInt8} (h : n = u.toNat) : UInt8.ofNat n = u := by
  rw [h, UInt8.ofNat_toNat]

lemma decodeGroup_triple (a b c : UInt8) :
    let n := (a.toNat * 256 + b.toNat) * 256 + c.toNat
    decodeGroup (digit (n / 262144)) (digit (n / 4096 % 64)) (digit (n / 64 % 64))
      (digit (n % 64)) = some [a, b, c] := by
  intro n
  have ha := a.toNat_lt
  have hb := b.toNat_lt
  have hc := c.toNat_lt
  rw [decodeGroup, if_neg (digit_ne_pad _ (by omega)),
    decodeLast_digits (by omega) (by omega) (by omega) (by omega),
    ofNat_of_eq_toNat (u := a), ofNat_of_eq_toNat (u := b), ofNat_of_eq_toNat (u := c)]
  · omega
  · omega
  · omega

/-- Reading what was written gives the bytes again. -/
theorem decode_encode (bytes : List UInt8) : decode (encode bytes) = some bytes := by
  induction bytes using encode.induct with
  | case1 => rfl
  | case2 a =>
    have ha := a.toNat_lt
    simp only [encode, decode]
    rw [decodeLast_two_pads (by omega) (by omega) (by omega), ofNat_of_eq_toNat (u := a)]
    omega
  | case3 a b =>
    have ha := a.toNat_lt
    have hb := b.toNat_lt
    simp only [encode, decode]
    rw [decodeLast_one_pad (by omega) (by omega) (by omega) (by omega),
      ofNat_of_eq_toNat (u := a), ofNat_of_eq_toNat (u := b)]
    · omega
    · omega
  | case4 a b c rest ih =>
    rw [encode]
    exact decode_cons (decodeGroup_triple a b c) ih

/-- Nothing is written but digits and padding. -/
lemma mem_encode (h : d ∈ encode bytes) : d = '=' ∨ ∃ n < 64, d = digit n := by
  induction bytes using encode.induct with
  | case1 => cases h
  | case2 a =>
    have ha := a.toNat_lt
    simp only [encode, List.mem_cons, List.not_mem_nil, or_false] at h
    rcases h with rfl | rfl | rfl | rfl <;> first | exact .inl rfl | exact .inr ⟨_, by omega, rfl⟩
  | case3 a b =>
    have ha := a.toNat_lt
    have hb := b.toNat_lt
    simp only [encode, List.mem_cons, List.not_mem_nil, or_false] at h
    rcases h with rfl | rfl | rfl | rfl <;> first | exact .inl rfl | exact .inr ⟨_, by omega, rfl⟩
  | case4 a b c rest ih =>
    have ha := a.toNat_lt
    have hb := b.toNat_lt
    have hc := c.toNat_lt
    simp only [encode, List.mem_cons] at h
    rcases h with rfl | rfl | rfl | rfl | h
    · exact .inr ⟨_, by omega, rfl⟩
    · exact .inr ⟨_, by omega, rfl⟩
    · exact .inr ⟨_, by omega, rfl⟩
    · exact .inr ⟨_, by omega, rfl⟩
    · exact ih h

end StepConditions.Payload.Base64
