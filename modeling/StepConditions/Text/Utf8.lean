import StepConditions.Error

/-!
# Texts and their UTF-8 bytes

Bytes that are no UTF-8 are refused with the place and extent of the first fault: a sequence that
goes wrong counts the bytes up to the one that does not belong, a sequence cut short by the end
has no extent.
-/
namespace StepConditions.Text

def utf8 (s : String) : List UInt8 :=
  s.toUTF8.data.toList

/-- The smallest and largest second byte after a leading byte of a longer sequence, and the count
of bytes that follow that one. -/
def secondByte? (b : UInt8) : Option (UInt8 × UInt8 × Nat) :=
  if 0xC2 ≤ b ∧ b ≤ 0xDF then some (0x80, 0xBF, 0)
  else if b = 0xE0 then some (0xA0, 0xBF, 1)
  else if b = 0xED then some (0x80, 0x9F, 1)
  else if 0xE1 ≤ b ∧ b ≤ 0xEF then some (0x80, 0xBF, 1)
  else if b = 0xF0 then some (0x90, 0xBF, 2)
  else if 0xF1 ≤ b ∧ b ≤ 0xF3 then some (0x80, 0xBF, 2)
  else if b = 0xF4 then some (0x80, 0x8F, 2)
  else none

/-- Where a fault search stands inside a sequence: bytes of it seen, the range of the next byte,
and the count of bytes after that. -/
structure Pending where
  seen : Nat
  low : UInt8
  high : UInt8
  left : Nat

/-- The first fault of the bytes, `valid` bytes before the current sequence being in order. -/
def utf8FaultFrom (valid : Nat) : Option Pending → List UInt8 → Option Utf8Fault
  | none, [] => none
  | some _, [] => some (.incomplete valid)
  | none, b :: bs =>
    if b < 0x80 then utf8FaultFrom (valid + 1) none bs
    else match secondByte? b with
      | some (low, high, left) => utf8FaultFrom valid (some ⟨1, low, high, left⟩) bs
      | none => some (.invalid 1 valid)
  | some p, b :: bs =>
    if p.low ≤ b ∧ b ≤ p.high then
      match p.left with
      | 0 => utf8FaultFrom (valid + p.seen + 1) none bs
      | left + 1 => utf8FaultFrom valid (some ⟨p.seen + 1, 0x80, 0xBF, left⟩) bs
    else some (.invalid p.seen valid)

def utf8Fault (bytes : List UInt8) : Utf8Fault :=
  (utf8FaultFrom 0 none bytes).getD (.incomplete bytes.length)

def ofUtf8 (bytes : List UInt8) : Except Utf8Fault String :=
  match String.fromUTF8? ⟨bytes.toArray⟩ with
  | some s => .ok s
  | none => .error (utf8Fault bytes)

end StepConditions.Text
