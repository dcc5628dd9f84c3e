/-!
# Base64

The standard alphabet with padding. Reading is strict: the padding has to be there, the bits that
it leaves over are zero, and no other character occurs.
-/
namespace StepConditions.Payload.Base64

def digit (n : Nat) : Char :=
  if n < 26 then Char.ofNat (n + 65)
  else if n < 52 then Char.ofNat (n - 26 + 97)
  else if n < 62 then Char.ofNat (n - 52 + 48)
  else if n = 62 then '+'
  else '/'

def digitValue? (c : Char) : Option Nat :=
  let n := c.toNat
  if 65 ≤ n ∧ n ≤ 90 then some (n - 65)
  else if 97 ≤ n ∧ n ≤ 122 then some (n - 97 + 26)
  else if 48 ≤ n ∧ n ≤ 57 then some (n - 48 + 52)
  else if c = '+' then some 62
  else if c = '/' then some 63
  else none

/-- Three bytes are four digits; one or two bytes at the end are padded. -/
def encode : List UInt8 → List Char
  | [] => []
  | [a] =>
    let n := a.toNat * 16
    [digit (n / 64), digit (n % 64), '=', '=']
  | [a, b] =>
    let n := (a.toNat * 256 + b.toNat) * 4
    [digit (n / 4096), digit (n / 64 % 64), digit (n % 64), '=']
  | a :: b :: c :: rest =>
    let n := (a.toNat * 256 + b.toNat) * 256 + c.toNat
    digit (n / 262144) :: digit (n / 4096 % 64) :: digit (n / 64 % 64) :: digit (n % 64) ::
      encode rest

def decodeLast (a b c d : Char) : Option (List UInt8) := do
  let x ← digitValue? a
  let y ← digitValue? b
  if c = '=' ∧ d = '=' then
    let n := x * 64 + y
    if n % 16 = 0 then some [UInt8.ofNat (n / 16)] else none
  else
    let z ← digitValue? c
    if d = '=' then
      let n := (x * 64 + y) * 64 + z
      if n % 4 = 0 then some [UInt8.ofNat (n / 1024), UInt8.ofNat (n / 4 % 256)] else none
    else
      let w ← digitValue? d
      let n := ((x * 64 + y) * 64 + z) * 64 + w
      some [UInt8.ofNat (n / 65536), UInt8.ofNat (n / 256 % 256), UInt8.ofNat (n % 256)]

def decodeGroup (a b c d : Char) : Option (List UInt8) :=
  if d = '=' then none else decodeLast a b c d

def decode : List Char → Option (List UInt8)
  | [] => some []
  | [a, b, c, d] => decodeLast a b c d
  | a :: b :: c :: d :: rest =>
    match decodeGroup a b c d, decode rest with
    | some bytes, some more => some (bytes ++ more)
    | _, _ => none
  | _ => none

end StepConditions.Payload.Base64
