import StepConditions.Payload.Deflate

/-!
# Gzip members

A member is a header, a deflate stream, and the check value and length of the bytes. Optional parts
of the header are skipped, and its own check value is verified if there is one. Bytes behind the
member are ignored.
-/
namespace StepConditions.Payload.Gzip

def magic : List UInt8 := [0x1F, 0x8B]

/-- The header that is written: no optional parts, no time, unknown system. -/
def header : List UInt8 := [0x1F, 0x8B, 8, 0, 0, 0, 0, 0, 0, 0xFF]

/-- The check value and the length of the bytes, four bytes each. -/
def trailer (bytes : List UInt8) : List UInt8 :=
  littleEndian 4 (crc32 bytes).toNat ++ littleEndian 4 bytes.length

def wrap (bytes : List UInt8) : List UInt8 :=
  header ++ Deflate.deflate bytes ++ trailer bytes

def textLimit : Nat := 65535

def skipText? (bytes : List UInt8) : Option (List UInt8) :=
  if textLimit < (bytes.takeWhile (· != 0)).length then none
  else match bytes.dropWhile (· != 0) with
    | _ :: rest => some rest
    | [] => none

def skipField? (bytes : List UInt8) : Option (List UInt8) :=
  match takeNumber? 2 bytes with
  | none => none
  | some (n, bytes) => (takeBytes? n bytes).map Prod.snd

def skipIf? (flags : UInt8) (bit : Nat) (skip : List UInt8 → Option (List UInt8))
    (bytes : List UInt8) : Option (List UInt8) :=
  if flags.toNat.testBit bit then skip bytes else some bytes

/-- Verifies the check value of a header, of which `bytes` is the rest. -/
def skipCheck? (all bytes : List UInt8) : Option (List UInt8) :=
  match takeNumber? 2 bytes with
  | none => none
  | some (n, rest) =>
    if n = (crc32 (all.take (all.length - bytes.length))).toNat % 65536 then some rest else none

/-- Skips the header of a member: deflate as its method and no flags but the known five. -/
def skipHeader? (all : List UInt8) : Option (List UInt8) :=
  match all with
  | 0x1F :: 0x8B :: 8 :: flags :: _ :: _ :: _ :: _ :: _ :: _ :: bytes =>
    if flags < 0x20 then do
      let bytes ← skipIf? flags 2 skipField? bytes
      let bytes ← skipIf? flags 3 skipText? bytes
      let bytes ← skipIf? flags 4 skipText? bytes
      skipIf? flags 1 (skipCheck? all) bytes
    else none
  | _ => none

/-- The bytes of the member at the beginning, if it is whole and undamaged. -/
def unwrap? (all : List UInt8) : Option (List UInt8) := do
  let bytes ← skipHeader? all
  let (out, bytes) ← Deflate.inflate? bytes
  let (front, _) ← takeBytes? 8 bytes
  if front = trailer out then some out else none

end StepConditions.Payload.Gzip
