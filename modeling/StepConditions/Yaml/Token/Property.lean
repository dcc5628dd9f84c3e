import StepConditions.Numeric.Digits
import StepConditions.Yaml.Token
import StepConditions.Yaml.Cursor

/-!
# Anchors, aliases, tags and directives

The tokens that name nodes and their kinds. A tag is a handle and a suffix; a verbatim tag has an
empty handle, and so has the tag of a single mark.
-/
namespace StepConditions.Yaml.Property

def name? (c : Cursor) : Option (String × Cursor) :=
  let (cs, c) := (c.advance 1).span isNameChar
  let ended := isGap c.head || "?:,]\x7d%@`".toList.contains c.head
  if cs.isEmpty || !ended then none else some (String.ofList cs, c)

/-- Characters of a tag or its expansion; brackets and the comma only where `flow` admits them. -/
def isTagChar (flow : Bool) (ch : Char) : Bool :=
  isNameChar ch || ";/?:@&=+$.%!~*'()".toList.contains ch ||
    (flow && (ch == ',' || ch == '[' || ch == ']'))

def octet? (c : Cursor) : Option (Nat × Cursor) :=
  if c.head == '%' then (Numeric.readBase? 16 [c.peek 1, c.peek 2]).map (·, c.advance 3) else none

def octetsFrom? : Nat → Cursor → Option (List UInt8 × Cursor)
  | 0, c => some ([], c)
  | n + 1, c =>
    match octet? c with
    | some (o, c) =>
      if o / 64 = 2 then (octetsFrom? n c).map fun (os, c) => (UInt8.ofNat o :: os, c) else none
    | none => none

def furtherOctets? (o : Nat) : Option Nat :=
  if o < 0x80 then some 0
  else if o / 32 = 6 then some 1
  else if o / 16 = 14 then some 2
  else if o / 8 = 30 then some 3
  else none

/-- Reads a character that is written by its octets; they need not be those of any character. -/
def octets? (c : Cursor) : Option (List UInt8 × Cursor) :=
  match octet? c with
  | none => none
  | some (o, c) =>
    (furtherOctets? o).bind fun n =>
      (octetsFrom? n c).map fun (os, c) => (UInt8.ofNat o :: os, c)

def tagBytes? (flow : Bool) : Nat → Cursor → Option (List UInt8 × Cursor)
  | 0, c => some ([], c)
  | fuel + 1, c =>
    if isTagChar flow c.head then
      let step? :=
        if c.head == '%' then octets? c else some ([UInt8.ofNat c.head.toNat], c.advance 1)
      match step? with
      | none => none
      | some (os, c) => (tagBytes? flow fuel c).map fun (bytes, c) => (os ++ bytes, c)
    else some ([], c)

/-- Reads the rest of a tag of which `head` has been read; there has to be a character in all. -/
def suffix? (flow : Bool) (head : List Char) (c : Cursor) : Option (Tag × Cursor) :=
  match tagBytes? flow c.left c with
  | none => none
  | some (bytes, c) =>
    if head.isEmpty && bytes.isEmpty then none
    else some (Tag.untilZero (Tag.ofString (String.ofList head.tail) ++ bytes), c)

/-- Reads a mark, a name and, if it is there, a second mark. -/
def handle (c : Cursor) : List Char × Cursor :=
  let (cs, c) := (c.advance 1).span isNameChar
  if c.head == '!' then ('!' :: cs ++ ['!'], c.advance 1) else ('!' :: cs, c)

def isHandle (cs : List Char) : Bool :=
  1 < cs.length && cs.getLast? == some '!'

def tagParts? (c : Cursor) : Option (List Char × Tag × Cursor) :=
  if c.peek 1 == '<' then
    match suffix? true [] (c.advance 2) with
    | some (s, c) => if c.head == '>' then some ([], s, c.advance 1) else none
    | none => none
  else
    let (h, c) := handle c
    if isHandle h then (suffix? false [] c).map fun (s, c) => (h, s, c)
    else (suffix? false h c).map fun (s, c) =>
      if s.isEmpty then ([], Tag.ofString "!", c) else (['!'], s, c)

/-- Reads a tag, which a gap has to follow or, inside flow collections, a comma. -/
def tag? (flow : Bool) (c : Cursor) : Option (Token × Cursor) :=
  match tagParts? c with
  | none => none
  | some (h, s, c) =>
    if isGap c.head || (flow && c.head == ',') then
      some (.tag (String.ofList h) s, c)
    else none

/-- Reads a number of a version, at most nine digits. -/
def versionNumber? (c : Cursor) : Option (Nat × Cursor) :=
  let (ds, c) := c.span Char.isDigit
  if ds.isEmpty || 9 < ds.length then none else some (Numeric.digitsValue 0 ds, c)

def version? (c : Cursor) : Option (Token × Cursor) := do
  let (major, c) ← versionNumber? c
  guard (c.head == '.')
  let (minor, c) ← versionNumber? (c.advance 1)
  some (.version major minor, c)

def tagHandle? (c : Cursor) : Option (Token × Cursor) := do
  guard (c.head == '!')
  let (h, c) := handle c
  guard (isHandle h || h == ['!'])
  guard (isBlank c.head)
  let (s, c) ← suffix? true [] (c.skipWhile isBlank)
  guard (isGap c.head)
  some (.tagHandle (String.ofList h) s, c)

def directive? (c : Cursor) : Option (Token × Cursor) := do
  let (kind, c) := (c.advance 1).span isNameChar
  guard (isGap c.head)
  let c := c.skipWhile isBlank
  let (token, c) ←
    if kind == "YAML".toList then version? c
    else if kind == "TAG".toList then tagHandle? c
    else none
  let c := (c.skipWhile isBlank).skipComment
  guard (isLineEnd c.head)
  some (token, c.skipBreak)

end StepConditions.Yaml.Property
