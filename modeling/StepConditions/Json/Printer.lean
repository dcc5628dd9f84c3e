import StepConditions.Json.Basic

/-!
# Compact text of a document

No spaces, members in order. Only quotes, backslashes and the characters below the space are
escaped; every other character is written as itself.
-/
namespace StepConditions.Json

def hexDigit (n : Nat) : Char :=
  Nat.digitChar n

def escapeChar (c : Char) : List Char :=
  match c with
  | '"' => ['\\', '"']
  | '\\' => ['\\', '\\']
  | '\x08' => ['\\', 'b']
  | '\x0C' => ['\\', 'f']
  | '\n' => ['\\', 'n']
  | '\r' => ['\\', 'r']
  | '\t' => ['\\', 't']
  | c =>
    if c.toNat < 0x20 then
      ['\\', 'u', '0', '0', hexDigit (c.toNat / 16), hexDigit (c.toNat % 16)]
    else [c]

def stringText (s : String) : List Char :=
  '"' :: (s.toList.flatMap escapeChar ++ ['"'])

mutual

/-- The text of a document, in front of `rest`. -/
def write (rest : List Char) : Json → List Char
  | null => 'n' :: 'u' :: 'l' :: 'l' :: rest
  | bool true => 't' :: 'r' :: 'u' :: 'e' :: rest
  | bool false => 'f' :: 'a' :: 'l' :: 's' :: 'e' :: rest
  | number n => n.text ++ rest
  | string s => stringText s ++ rest
  | array items => '[' :: writeItems true (']' :: rest) items
  | object members => '\x7b' :: writeMembers true ('\x7d' :: rest) members

def writeItems (first : Bool) (rest : List Char) : List Json → List Char
  | [] => rest
  | j :: js => (if first then [] else [',']) ++ write (writeItems false rest js) j

def writeMembers (first : Bool) (rest : List Char) : List (String × Json) → List Char
  | [] => rest
  | (k, j) :: ms =>
    (if first then [] else [',']) ++ stringText k ++ ':' :: write (writeMembers false rest ms) j

end

def print (j : Json) : String :=
  String.ofList (j.write [])

end StepConditions.Json
