import StepConditions.Json.Basic
import StepConditions.Numeric.Decimal
import StepConditions.Yaml.Tag

/-!
# Scalars

What a scalar stands for. A plain scalar is null, a truth value, a number or else a string; a tag
can force one of these kinds, and every other scalar is a string.
-/
namespace StepConditions.Yaml

open Numeric

def isNullWord (cs : List Char) : Bool :=
  ["~", "null", "Null", "NULL"].any (·.toList == cs)

def boolWord? (cs : List Char) : Option Bool :=
  if ["true", "True", "TRUE"].any (·.toList == cs) then some true
  else if ["false", "False", "FALSE"].any (·.toList == cs) then some false
  else none

/-- An integer as far as scalars know them: one that a document holds, or one of at most 128 bits
that it cannot hold. -/
inductive IntScalar where
  | fits (n : Json.Number)
  | tooLarge

/-- The integer if it has at most 128 bits. -/
def IntScalar.ofInt? (i : Int) : Option IntScalar :=
  match Json.Number.ofInt? i with
  | some n => some (.fits n)
  | none => if -(1 <<< 127 : Nat) ≤ i ∧ i < (1 <<< 128 : Nat) then some .tooLarge else none

/-- A zero before further digits, after an optional sign: such a text is no number. -/
def hasLeadingZero (cs : List Char) : Bool :=
  let ds := match cs with
    | '-' :: ds => ds
    | '+' :: ds => ds
    | ds => ds
  match ds with
  | '0' :: d :: rest => (d :: rest).all Char.isDigit
  | _ => false

/-- A number in base sixteen, eight or two behind its mark. -/
def markedNumber? : List Char → Option Nat
  | '0' :: 'x' :: ds => readBase? 16 ds
  | '0' :: 'o' :: ds => readBase? 8 ds
  | '0' :: 'b' :: ds => readBase? 2 ds
  | _ => none

def unsigned? (cs : List Char) : Option Nat :=
  match markedNumber? cs with
  | some n => some n
  | none => if hasLeadingZero cs then none else readBase? 10 cs

def intScalar? (cs : List Char) : Option IntScalar :=
  match cs with
  | '+' :: ds => (unsigned? ds).bind fun n => IntScalar.ofInt? n
  | '-' :: ds => (unsigned? ds).bind fun n => IntScalar.ofInt? (-n)
  | ds => (unsigned? ds).bind fun n => IntScalar.ofInt? n

/-- Infinities and what is not a number have words; a document holds null in their place. -/
def isInfiniteWord (cs : List Char) : Bool :=
  [".inf", ".Inf", ".INF", "+.inf", "+.Inf", "+.INF", "-.inf", "-.Inf", "-.INF",
    ".nan", ".NaN", ".NAN"].any (·.toList == cs)

def finite? (cs : List Char) : Option Binary64 :=
  match cs with
  | '+' :: '+' :: _ | '+' :: '-' :: _ => none
  | cs => readFinite? cs

def floatScalar? (cs : List Char) : Option Json :=
  if isInfiniteWord cs then some .null
  else (finite? cs).bind fun x => (Json.Number.ofBinary64? x).map .number

/-- What a plain scalar stands for; an integer that is too large is an error. -/
def plainScalar? (text : String) : Option Json :=
  let cs := text.toList
  if cs.isEmpty || isNullWord cs then some .null
  else match boolWord? cs with
    | some b => some (.bool b)
    | none =>
      match intScalar? cs with
      | some (.fits n) => some (.number n)
      | some .tooLarge => none
      | none =>
        if hasLeadingZero cs then some (.string text)
        else some ((floatScalar? cs).getD (.string text))

def forcedInt? (cs : List Char) : Option Json :=
  match intScalar? cs with
  | some (.fits n) => some (.number n)
  | _ => none

/-- What a scalar of a kind stands for; other kinds than these four are strings. -/
def forcedScalar? (tag : Tag) (text : String) : Option Json :=
  let cs := text.toList
  if tag = Tag.standard "bool" then (boolWord? cs).map .bool
  else if tag = Tag.standard "int" then forcedInt? cs
  else if tag = Tag.standard "float" then floatScalar? cs
  else if tag = Tag.standard "null" then (if isNullWord cs then some .null else none)
  else some (.string text)

def untaggedScalar? (plain : Bool) (text : String) : Option Json :=
  if plain then plainScalar? text else some (.string text)

def scalar? (tag : Option Tag) (plain : Bool) (text : String) : Option Json :=
  match tag with
  | none => untaggedScalar? plain text
  | some t =>
    if t.isForeign then none
    else if t.isLocal then untaggedScalar? plain text
    else forcedScalar? t text

end StepConditions.Yaml
