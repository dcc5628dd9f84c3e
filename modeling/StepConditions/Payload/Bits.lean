/-!
# Streams of bits

Bits are taken from each byte lowest first, and numbers of several bits have their lowest bit
first. At a byte boundary whole bytes can be taken instead.
-/
namespace StepConditions.Payload

/-- Bits left of a byte that was begun, and the bytes behind it. -/
structure BitStream where
  begun : List Bool
  bytes : List UInt8

namespace BitStream

def bitsOf (b : UInt8) : List Bool :=
  (List.range 8).map b.toNat.testBit

def next? : BitStream → Option (Bool × BitStream)
  | ⟨b :: bs, bytes⟩ => some (b, ⟨bs, bytes⟩)
  | ⟨[], x :: xs⟩ => some (x.toNat.testBit 0, ⟨(bitsOf x).tail, xs⟩)
  | ⟨[], []⟩ => none

def number? : Nat → BitStream → Option (Nat × BitStream)
  | 0, s => some (0, s)
  | n + 1, s =>
    match s.next? with
    | none => none
    | some (b, s) => (number? n s).map fun (v, s) => (b.toNat + 2 * v, s)

/-- Drops the rest of a byte that was begun. -/
def align (s : BitStream) : BitStream :=
  ⟨[], s.bytes⟩

def size (s : BitStream) : Nat :=
  s.begun.length + 8 * s.bytes.length

end BitStream

end StepConditions.Payload
