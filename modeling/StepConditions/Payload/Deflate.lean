import StepConditions.Payload.Bytes
import StepConditions.Payload.Huffman

/-!
# Deflate

A stream is a chain of blocks: bytes as they are, or literals and copies of earlier output under
prefix codes that are fixed or come with the block. What a copy finds before the first byte is a
window of zeros. Packing writes blocks of bytes as they are.
-/
namespace StepConditions.Payload.Deflate

/-- Least length and count of further bits for each length symbol from `257` on. -/
def lengthTable : List (Nat × Nat) :=
  [(3, 0), (4, 0), (5, 0), (6, 0), (7, 0), (8, 0), (9, 0), (10, 0), (11, 1), (13, 1), (15, 1),
   (17, 1), (19, 2), (23, 2), (27, 2), (31, 2), (35, 3), (43, 3), (51, 3), (59, 3), (67, 4),
   (83, 4), (99, 4), (115, 4), (131, 5), (163, 5), (195, 5), (227, 5), (258, 0)]

/-- Least distance and count of further bits for each distance symbol. -/
def distanceTable : List (Nat × Nat) :=
  [(1, 0), (2, 0), (3, 0), (4, 0), (5, 1), (7, 1), (9, 2), (13, 2), (17, 3), (25, 3), (33, 4),
   (49, 4), (65, 5), (97, 5), (129, 6), (193, 6), (257, 7), (385, 7), (513, 8), (769, 8),
   (1025, 9), (1537, 9), (2049, 10), (3073, 10), (4097, 11), (6145, 11), (8193, 12), (12289, 12),
   (16385, 13), (24577, 13)]

/-- The order in which the word lengths of the code for word lengths are given. -/
def lengthOrder : List Nat :=
  [16, 17, 18, 0, 8, 7, 9, 6, 10, 5, 11, 4, 12, 3, 13, 2, 14, 1, 15]

def fixedLiterals : List Nat :=
  List.replicate 144 8 ++ List.replicate 112 9 ++ List.replicate 24 7 ++ List.replicate 8 8

def fixedDistances : List Nat :=
  List.replicate 32 5

structure Codes where
  literals : PrefixCode
  distances : PrefixCode

def Codes.ofLengths? (literals distances : List Nat) : Option Codes := do
  let l ← PrefixCode.ofLengths? true literals
  let d ← PrefixCode.ofLengths? true distances
  some ⟨l, d⟩

/-- The value that a symbol of a table stands for with its further bits. -/
def tableValue? (table : List (Nat × Nat)) (symbol : Nat) (s : BitStream) :
    Option (Nat × BitStream) :=
  match table[symbol]? with
  | none => none
  | some (base, extra) => (s.number? extra).map fun (v, s) => (base + v, s)

/-- Appends `length` bytes, each a copy of the byte `distance` before it. -/
def copyBack (distance : Nat) (out : Array UInt8) : Nat → Array UInt8
  | 0 => out
  | length + 1 =>
    let b := if distance ≤ out.size then out.getD (out.size - distance) 0 else 0
    copyBack distance (out.push b) length

/-- What a block has next: a byte, a copy of earlier ones, or its end. -/
inductive Item where
  | literal (b : UInt8)
  | copy (length distance : Nat)
  | stop

def readItem? (codes : Codes) (s : BitStream) : Option (Item × BitStream) :=
  match codes.literals.read? s with
  | none => none
  | some (symbol, s) =>
    if symbol < 256 then some (.literal (UInt8.ofNat symbol), s)
    else if symbol = 256 then some (.stop, s)
    else match tableValue? lengthTable (symbol - 257) s with
      | none => none
      | some (length, s) =>
        match codes.distances.read? s with
        | none => none
        | some (symbol, s) =>
          (tableValue? distanceTable symbol s).map fun (distance, s) => (.copy length distance, s)

def readItems? (codes : Codes) (out : Array UInt8) :
    Nat → BitStream → Option (Array UInt8 × BitStream)
  | 0, _ => none
  | fuel + 1, s =>
    match readItem? codes s with
    | none => none
    | some (.literal b, s) => readItems? codes (out.push b) fuel s
    | some (.copy length distance, s) => readItems? codes (copyBack distance out length) fuel s
    | some (.stop, s) => some (out, s)

def readThrees? : Nat → BitStream → Option (List Nat × BitStream)
  | 0, s => some ([], s)
  | n + 1, s =>
    match s.number? 3 with
    | none => none
    | some (v, s) => (readThrees? n s).map fun (vs, s) => (v :: vs, s)

/-- The word lengths that a run symbol appends: the last length again, or zeros. -/
def runOf? (lengths : Array Nat) (symbol : Nat) (s : BitStream) :
    Option (List Nat × BitStream) :=
  match symbol with
  | 16 =>
    match lengths.back? with
    | none => none
    | some l => (s.number? 2).map fun (v, s) => (List.replicate (v + 3) l, s)
  | 17 => (s.number? 3).map fun (v, s) => (List.replicate (v + 3) 0, s)
  | 18 => (s.number? 7).map fun (v, s) => (List.replicate (v + 11) 0, s)
  | l => some ([l], s)

/-- Reads word lengths until there are `count`; a run must not go beyond. -/
def readLengths? (code : PrefixCode) (count : Nat) (lengths : Array Nat) :
    Nat → BitStream → Option (List Nat × BitStream)
  | 0, _ => none
  | fuel + 1, s =>
    if lengths.size < count then
      match code.read? s with
      | none => none
      | some (symbol, s) =>
        match runOf? lengths symbol s with
        | none => none
        | some (ls, s) => readLengths? code count (lengths ++ ls) fuel s
    else if lengths.size = count then some (lengths.toList, s)
    else none

/-- The most literal and length symbols, and distance symbols, that a block may describe. -/
def mostLiterals : Nat := 286

def mostDistances : Nat := 30

def readCodes? (s : BitStream) : Option (Codes × BitStream) := do
  let (l, s) ← s.number? 5
  let (d, s) ← s.number? 5
  let (n, s) ← s.number? 4
  let (l, d) := (l + 257, d + 1)
  guard (l ≤ mostLiterals && d ≤ mostDistances)
  let (given, s) ← readThrees? (n + 4) s
  let given := lengthOrder.zip given
  let lengths := (List.range 19).map fun symbol => (given.lookup symbol).getD 0
  let code ← PrefixCode.ofLengths? false lengths
  let (lengths, s) ← readLengths? code (l + d) #[] (l + d + 1) s
  let codes ← Codes.ofLengths? (lengths.take l) (lengths.drop l)
  some (codes, s)

/-- Reads a block of bytes as they are: their count, its complement, and the bytes. -/
def readStored? (out : Array UInt8) (s : BitStream) : Option (Array UInt8 × BitStream) :=
  match takeNumber? 2 s.align.bytes with
  | none => none
  | some (count, bytes) =>
    match takeNumber? 2 bytes with
    | none => none
    | some (complement, bytes) =>
      if count + complement = 0xFFFF then
        (takeBytes? count bytes).map fun (block, bytes) => (out ++ block, ⟨[], bytes⟩)
      else none

def readBlock? (type : Nat) (out : Array UInt8) (s : BitStream) :
    Option (Array UInt8 × BitStream) :=
  match type with
  | 0 => readStored? out s
  | 1 =>
    match Codes.ofLengths? fixedLiterals fixedDistances with
    | none => none
    | some codes => readItems? codes out (s.size + 1) s
  | 2 =>
    match readCodes? s with
    | none => none
    | some (codes, s) => readItems? codes out (s.size + 1) s
  | _ => none

def readBlocks? (out : Array UInt8) : Nat → BitStream → Option (Array UInt8 × BitStream)
  | 0, _ => none
  | fuel + 1, s =>
    match s.number? 1 with
    | none => none
    | some (final, s) =>
      match s.number? 2 with
      | none => none
      | some (type, s) =>
        match readBlock? type out s with
        | none => none
        | some (out, s) => if final = 1 then some (out, s) else readBlocks? out fuel s

/-- The bytes that a stream at the beginning of some bytes stands for, and the bytes behind it. -/
def inflate? (bytes : List UInt8) : Option (List UInt8 × List UInt8) :=
  (readBlocks? #[] (bytes.length + 1) ⟨[], bytes⟩).map fun (out, s) => (out.toList, s.bytes)

/-- The most bytes that one block holds as they are. -/
def blockLimit : Nat := 65535

def storedBlock (final : Bool) (block : List UInt8) : List UInt8 :=
  (if final then 1 else 0) ::
    (littleEndian 2 block.length ++ littleEndian 2 (0xFFFF - block.length) ++ block)

def deflateAux : Nat → List UInt8 → List UInt8
  | 0, bytes => storedBlock true bytes
  | more + 1, bytes =>
    storedBlock false (bytes.take blockLimit) ++ deflateAux more (bytes.drop blockLimit)

/-- A stream of the bytes, cut into as few blocks as possible. -/
def deflate (bytes : List UInt8) : List UInt8 :=
  deflateAux ((bytes.length - 1) / blockLimit) bytes

end StepConditions.Payload.Deflate
