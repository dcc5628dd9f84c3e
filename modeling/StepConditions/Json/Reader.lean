import StepConditions.Json.Basic

/-!
# Reading a document

Strict JSON: four blank characters, no comments, no trailing commas, no control characters in
strings, escapes of surrogates only in pairs. Arrays and objects nest at most 127 deep. A key that
occurs again keeps its first place and takes the last value.
-/
namespace StepConditions.Json

open Numeric

def isBlankChar (c : Char) : Bool :=
  c == ' ' || c == '\t' || c == '\n' || c == '\r'

def skipBlank (cs : List Char) : List Char :=
  cs.dropWhile isBlankChar

def readHex4? : List Char → Option (Nat × List Char)
  | a :: b :: c :: d :: cs => (readBase? 16 [a, b, c, d]).map (·, cs)
  | _ => none

def isHighSurrogate (n : Nat) : Bool :=
  0xD800 ≤ n && n < 0xDC00

def isLowSurrogate (n : Nat) : Bool :=
  0xDC00 ≤ n && n < 0xE000

/-- The character after `\u`; a high surrogate needs the escape of a low one behind it. -/
def readUnicode? (cs : List Char) : Option (Char × List Char) := do
  let (n, cs) ← readHex4? cs
  if isLowSurrogate n then none
  else if isHighSurrogate n then
    match cs with
    | '\\' :: 'u' :: cs =>
      let (m, cs) ← readHex4? cs
      if isLowSurrogate m then
        some (Char.ofNat (0x10000 + (n - 0xD800) * 0x400 + (m - 0xDC00)), cs)
      else none
    | _ => none
  else some (Char.ofNat n, cs)

def readEscape? : List Char → Option (Char × List Char)
  | '"' :: cs => some ('"', cs)
  | '\\' :: cs => some ('\\', cs)
  | '/' :: cs => some ('/', cs)
  | 'b' :: cs => some ('\x08', cs)
  | 'f' :: cs => some ('\x0C', cs)
  | 'n' :: cs => some ('\n', cs)
  | 'r' :: cs => some ('\r', cs)
  | 't' :: cs => some ('\t', cs)
  | 'u' :: cs => readUnicode? cs
  | _ => none

/-- One character of a string, or none at its closing quote. -/
def readStringChar? : List Char → Option (Option Char × List Char)
  | [] => none
  | '"' :: cs => some (none, cs)
  | '\\' :: cs => (readEscape? cs).map fun (c, cs) => (some c, cs)
  | c :: cs => if c.toNat < 0x20 then none else some (some c, cs)

/-- The characters up to the closing quote, in reverse before `acc`. -/
def readStringAux (acc : List Char) : Nat → List Char → Option (List Char × List Char)
  | 0, _ => none
  | fuel + 1, cs =>
    match readStringChar? cs with
    | none => none
    | some (none, cs) => some (acc.reverse, cs)
    | some (some c, cs) => readStringAux (c :: acc) fuel cs

/-- Reads a string whose opening quote has been read. -/
def readString? (cs : List Char) : Option (String × List Char) :=
  (readStringAux [] (cs.length + 1) cs).map fun (s, cs) => (String.ofList s, cs)

def readWord? : List Char → List Char → Option (List Char)
  | [], cs => some cs
  | w :: ws, c :: cs => if w = c then readWord? ws cs else none
  | _ :: _, [] => none

mutual

/-- Reads a value that starts at the first character; `depth` more levels may open. -/
def readValueAux : Nat → Nat → List Char → Option (Json × List Char)
  | 0, _, _ => none
  | fuel + 1, depth, cs =>
    match cs with
    | [] => none
    | '"' :: cs => (readString? cs).map fun (s, cs) => (string s, cs)
    | '[' :: cs =>
      match depth with
      | 0 => none
      | depth + 1 =>
        match skipBlank cs with
        | ']' :: cs => some (array [], cs)
        | cs => (readItemsAux [] fuel depth cs).map fun (js, cs) => (array js, cs)
    | '\x7b' :: cs =>
      match depth with
      | 0 => none
      | depth + 1 =>
        match skipBlank cs with
        | '\x7d' :: cs => some (object [], cs)
        | cs => (readMembersAux [] fuel depth cs).map fun (ms, cs) => (object ms, cs)
    | 'n' :: cs => (readWord? ['u', 'l', 'l'] cs).map (null, ·)
    | 't' :: cs => (readWord? ['r', 'u', 'e'] cs).map (bool true, ·)
    | 'f' :: cs => (readWord? ['a', 'l', 's', 'e'] cs).map (bool false, ·)
    | cs => (readNumber? cs).map fun (n, cs) => (number n, cs)

/-- Reads items up to the closing bracket; `acc` holds the earlier ones in reverse. -/
def readItemsAux (acc : List Json) : Nat → Nat → List Char → Option (List Json × List Char)
  | 0, _, _ => none
  | fuel + 1, depth, cs =>
    match readValueAux fuel depth (skipBlank cs) with
    | none => none
    | some (j, cs) =>
      match skipBlank cs with
      | ',' :: cs => readItemsAux (j :: acc) fuel depth cs
      | ']' :: cs => some ((j :: acc).reverse, cs)
      | _ => none

/-- Reads members up to the closing brace; `acc` holds the earlier ones. -/
def readMembersAux (acc : List (String × Json)) :
    Nat → Nat → List Char → Option (List (String × Json) × List Char)
  | 0, _, _ => none
  | fuel + 1, depth, cs =>
    match skipBlank cs with
    | '"' :: cs =>
      match readString? cs with
      | none => none
      | some (k, cs) =>
        match skipBlank cs with
        | ':' :: cs =>
          match readValueAux fuel depth (skipBlank cs) with
          | none => none
          | some (j, cs) =>
            match skipBlank cs with
            | ',' :: cs => readMembersAux (setMember k j acc) fuel depth cs
            | '\x7d' :: cs => some (setMember k j acc, cs)
            | _ => none
        | _ => none
    | _ => none

end

def depthLimit : Nat := 127

/-- Reads a text that holds one document and blanks around it. -/
def parse? (s : String) : Option Json :=
  let cs := skipBlank s.toList
  match readValueAux (cs.length + 1) depthLimit cs with
  | some (j, cs) => if (skipBlank cs).isEmpty then some j else none
  | none => none

end StepConditions.Json
