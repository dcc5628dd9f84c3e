import StepConditions.Yaml.Token.Block
import StepConditions.Yaml.Token.Plain
import StepConditions.Yaml.Token.Property
import StepConditions.Yaml.Token.Quoted

/-!
# Tokens of a text

A text is cut into tokens from its beginning. Two kinds of token are not seen where they stand:
the ends of block collections come with the first token that is indented less, and a key without
an indicator is only known by the colon behind it. Where a key may begin, its place among the
tokens is kept until the colon comes or the place is void: a key ends on its line and within 1024
characters.
-/
namespace StepConditions.Yaml

/-- A place where a key may have begun. A required one is an error if no colon follows. -/
structure KeyPlace where
  required : Bool
  token : Nat
  index : Nat
  line : Nat
  column : Nat

/-- A place that is still good for a key here: on this line and near. -/
def KeyPlace.isNear (k : KeyPlace) (c : Cursor) : Bool :=
  k.line == c.line && c.index ≤ k.index + 1024

/-- The state of a scan: tokens so far in reverse and their count, the nesting of flow collections,
the indentation of the open block collections, whether a key may begin here, and the place of a
possible key on each flow level. -/
structure Scan where
  cursor : Cursor
  tokens : List Token
  count : Nat
  flow : Nat
  indent : Int
  outer : List Int
  keyAllowed : Bool
  key : Option KeyPlace
  outerKeys : List (Option KeyPlace)

namespace Scan

def start (cs : List Char) : Scan :=
  ⟨.ofChars cs, [], 0, 0, -1, [], true, none, []⟩

def inFlow (s : Scan) : Bool :=
  s.flow != 0

def push (s : Scan) (t : Token) : Scan :=
  { s with tokens := t :: s.tokens, count := s.count + 1 }

/-- Puts a token before the one of a number. -/
def insertAt (s : Scan) (n : Nat) (t : Token) : Scan :=
  let k := s.count - n
  { s with tokens := s.tokens.take k ++ t :: s.tokens.drop k, count := s.count + 1 }

def take (s : Scan) (n : Nat) (t : Token) : Scan :=
  { s with cursor := s.cursor.advance n }.push t

/-- Ends the block collections that are indented beyond a column. -/
def closeBlocks (column : Int) (s : Scan) : Scan :=
  if s.inFlow then s
  else
    let levels := s.indent :: s.outer
    let n := (levels.takeWhile (column < ·)).length
    match levels.drop n with
    | [] => s
    | i :: is =>
      { s with
        tokens := List.replicate n .blockEnd ++ s.tokens, count := s.count + n,
        indent := i, outer := is }

/-- Begins a block collection at a column if none is open there, before the token of a number. -/
def openBlock (column : Nat) (n : Nat) (t : Token) (s : Scan) : Scan :=
  if s.inFlow || (column : Int) ≤ s.indent then s
  else { s with indent := column, outer := s.indent :: s.outer }.insertAt n t

def dropKey? (s : Scan) : Option Scan :=
  if s.key.any (·.required) then none else some { s with key := none }

def noteKey? (s : Scan) : Option Scan :=
  if s.keyAllowed then
    s.dropKey?.map fun s =>
      let c := s.cursor
      let required := !s.inFlow && s.indent == c.column
      { s with key := some ⟨required, s.count, c.index, c.line, c.column⟩ }
  else some s

/-- Voids the places that are not near any more; a required one is an error. -/
def refreshKeys? (s : Scan) : Option Scan :=
  let all := s.key :: s.outerKeys
  let stale := fun k : Option KeyPlace => k.any fun k => !k.isNear s.cursor
  if all.any fun k => stale k && k.any (·.required) then none
  else
    let refresh := fun k => if stale k then none else k
    some { s with key := refresh s.key, outerKeys := s.outerKeys.map refresh }

def allowKey (b : Bool) (s : Scan) : Scan :=
  { s with keyAllowed := b }

/-- Passes over blanks, comments and line breaks, and over a byte order mark that begins a line. In
block collections a new line admits a key, and tabs are no blanks where a key may begin. -/
def skipGaps : Nat → Scan → Scan
  | 0, s => s
  | fuel + 1, s =>
    let c := s.cursor
    let c := if c.column == 0 && c.head == '\uFEFF' then c.advance 1 else c
    let tabs := s.inFlow || !s.keyAllowed
    let c := (c.skipWhile fun ch => ch == ' ' || (tabs && ch == '\t')).skipComment
    if isBreak c.head then
      skipGaps fuel { s with cursor := c.skipBreak, keyAllowed := s.keyAllowed || !s.inFlow }
    else { s with cursor := c }

/-- Leaves all block collections before a token that stands outside of documents. -/
def leaveDocument? (s : Scan) : Option Scan :=
  (s.closeBlocks (-1)).dropKey?.map (allowKey false)

def readStreamEnd? (s : Scan) : Option Scan :=
  s.leaveDocument?.map (·.push .streamEnd)

def readDirective? (s : Scan) : Option Scan := do
  let s ← s.leaveDocument?
  let (t, c) ← Property.directive? s.cursor
  some ({ s with cursor := c }.push t)

def readMark? (t : Token) (s : Scan) : Option Scan :=
  s.leaveDocument?.map (·.take 3 t)

def readFlowStart? (t : Token) (s : Scan) : Option Scan :=
  s.noteKey?.map fun s =>
    { s with flow := s.flow + 1, key := none, outerKeys := s.key :: s.outerKeys,
             keyAllowed := true }.take 1 t

/-- Leaves a flow level; outside of flow collections there is none to leave. -/
def closeFlow (s : Scan) : Scan :=
  match s.outerKeys with
  | [] => s
  | k :: ks => { s with flow := s.flow - 1, key := k, outerKeys := ks }

def readFlowEnd? (t : Token) (s : Scan) : Option Scan :=
  s.dropKey?.map fun s => (s.closeFlow.allowKey false).take 1 t

def readFlowEntry? (s : Scan) : Option Scan :=
  s.dropKey?.map fun s => (s.allowKey true).take 1 .flowEntry

/-- Begins a block collection here for an indicator, where a key might begin too. -/
def openBlockHere? (t : Token) (s : Scan) : Option Scan :=
  if s.inFlow then some s
  else if s.keyAllowed then some (s.openBlock s.cursor.column s.count t)
  else none

def readBlockEntry? (s : Scan) : Option Scan := do
  let s ← s.openBlockHere? .blockSequenceStart
  let s ← s.dropKey?
  some ((s.allowKey true).take 1 .blockEntry)

def readKey? (s : Scan) : Option Scan := do
  let s ← s.openBlockHere? .blockMappingStart
  let s ← s.dropKey?
  some ((s.allowKey !s.inFlow).take 1 .key)

/-- A colon turns the place of a possible key into a key; without one it stands for itself. -/
def readValue? (s : Scan) : Option Scan :=
  match s.key with
  | some k =>
    let s := { s.insertAt k.token .key with key := none, keyAllowed := false }
    some ((s.openBlock k.column k.token .blockMappingStart).take 1 .value)
  | none => (s.openBlockHere? .blockMappingStart).map fun s => (s.allowKey !s.inFlow).take 1 .value

def readName? (t : String → Token) (s : Scan) : Option Scan := do
  let s ← s.noteKey?
  let (name, c) ← Property.name? s.cursor
  some ({ s with cursor := c, keyAllowed := false }.push (t name))

def readTag? (s : Scan) : Option Scan := do
  let s ← s.noteKey?
  let (t, c) ← Property.tag? s.inFlow s.cursor
  some ({ s with cursor := c, keyAllowed := false }.push t)

def readBlockScalar? (folded : Bool) (s : Scan) : Option Scan := do
  let s ← s.dropKey?
  let (cs, c) ← Block.read? folded s.indent s.cursor
  some ({ s with cursor := c, keyAllowed := true }.push (.scalar (String.ofList cs) false))

def readQuoted? (single : Bool) (s : Scan) : Option Scan := do
  let s ← s.noteKey?
  let (cs, c) ← Quoted.read? single s.cursor
  some ({ s with cursor := c, keyAllowed := false }.push (.scalar (String.ofList cs) false))

def readPlain? (s : Scan) : Option Scan := do
  let s ← s.noteKey?
  let (cs, broken, c) ← Plain.read? s.inFlow (s.indent + 1) s.cursor
  some ({ s with cursor := c, keyAllowed := broken }.push (.scalar (String.ofList cs) true))

/-- Whether a plain scalar may begin with a character that is followed by another. -/
def beginsPlain (flow : Bool) (ch next : Char) : Bool :=
  if isGap ch then false
  else if ch == '-' then !isBlank next
  else if ch == '?' || ch == ':' then !flow && !isGap next
  else !(",[]\x7b\x7d#&*!|>'\"%@`".toList.contains ch)

def readHere? (s : Scan) : Option Scan :=
  let c := s.cursor
  let next := c.peek 1
  if c.head == endMark then s.readStreamEnd?
  else if c.column == 0 && c.head == '%' then s.readDirective?
  else if c.atMark '-' then s.readMark? .documentStart
  else if c.atMark '.' then s.readMark? .documentEnd
  else match c.head with
    | '[' => s.readFlowStart? .flowSequenceStart
    | '\x7b' => s.readFlowStart? .flowMappingStart
    | ']' => s.readFlowEnd? .flowSequenceEnd
    | '\x7d' => s.readFlowEnd? .flowMappingEnd
    | ',' => s.readFlowEntry?
    | '*' => s.readName? .alias
    | '&' => s.readName? .anchor
    | '!' => s.readTag?
    | '\'' => s.readQuoted? true
    | '"' => s.readQuoted? false
    | ch =>
      if ch == '-' && isGap next then s.readBlockEntry?
      else if ch == '?' && (s.inFlow || isGap next) then s.readKey?
      else if ch == ':' && (s.inFlow || isGap next) then s.readValue?
      else if ch == '|' && !s.inFlow then s.readBlockScalar? false
      else if ch == '>' && !s.inFlow then s.readBlockScalar? true
      else if beginsPlain s.inFlow ch next then s.readPlain?
      else none

def readToken? (s : Scan) : Option Scan := do
  let s := s.skipGaps (s.cursor.left + 1)
  let s ← s.refreshKeys?
  (s.closeBlocks s.cursor.column).readHere?

def run? : Nat → Scan → Option (List Token)
  | 0, _ => none
  | fuel + 1, s =>
    match s.readToken? with
    | none => none
    | some s =>
      if s.tokens.head? = some .streamEnd then some s.tokens.reverse else run? fuel s

end Scan

def Token.scan? (cs : List Char) : Option (List Token) :=
  if cs.all isAllowed then (Scan.start cs).run? (cs.length + 1) else none

end StepConditions.Yaml
