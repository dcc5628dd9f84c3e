/-!
# Numbers in bytes

Numbers of a fixed count of bytes with the lowest byte first, and the cyclic redundancy check of
32 bits.
-/
namespace StepConditions.Payload

/-- The lowest `k` bytes of a number. -/
def littleEndian : Nat → Nat → List UInt8
  | 0, _ => []
  | k + 1, n => UInt8.ofNat n :: littleEndian k (n / 256)

def ofLittleEndian : List UInt8 → Nat
  | [] => 0
  | b :: bs => b.toNat + 256 * ofLittleEndian bs

/-- Takes exactly `k` bytes off. -/
def takeBytes? (k : Nat) (bytes : List UInt8) : Option (List UInt8 × List UInt8) :=
  let front := bytes.take k
  if front.length = k then some (front, bytes.drop k) else none

def takeNumber? (k : Nat) (bytes : List UInt8) : Option (Nat × List UInt8) :=
  (takeBytes? k bytes).map fun (front, rest) => (ofLittleEndian front, rest)

def crcBit (r : UInt32) : UInt32 :=
  if r &&& 1 = 1 then (r >>> 1) ^^^ 0xEDB88320 else r >>> 1

def crcByte (r : UInt32) (b : UInt8) : UInt32 :=
  crcBit (crcBit (crcBit (crcBit (crcBit (crcBit (crcBit (crcBit (r ^^^ b.toUInt32))))))))

def crc32 (bytes : List UInt8) : UInt32 :=
  bytes.foldl crcByte 0xFFFFFFFF ^^^ 0xFFFFFFFF

end StepConditions.Payload
