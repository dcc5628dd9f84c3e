import StepConditions.Yaml.Token.Scan

/-!
# Events

A document as a flat list: scalars and aliases, and the beginnings and ends of collections. Tags
are expanded, and an alias knows its anchor by a number. Numbers are given by counting the anchor
names so far, so that a name that is anchored again may share a number with a later name; the last
node of a number is the one that aliases mean.
-/
namespace StepConditions.Yaml

inductive Event where
  | alias (id : Nat)
  | scalar (tag : Option Tag) (plain : Bool) (text : String)
  | sequenceStart (tag : Option Tag)
  | sequenceEnd
  | mappingStart (tag : Option Tag)
  | mappingEnd
  deriving DecidableEq

/-- The events of a document, and for each number of an anchor the position of its node, the last
given first. -/
structure EventList where
  events : List Event
  targets : List (Nat × Nat)

namespace Event

/-- Tokens that are left, events so far in reverse and their count, the numbers of anchor names and
the positions of anchored nodes. -/
structure Reading where
  tokens : List Token
  events : List Event
  count : Nat
  anchors : List (String × Nat)
  targets : List (Nat × Nat)

namespace Reading

def emit (e : Event) (r : Reading) : Reading :=
  { r with events := e :: r.events, count := r.count + 1 }

def withTokens (r : Reading) (ts : List Token) : Reading :=
  { r with tokens := ts }

def emitEmpty (r : Reading) : Reading :=
  r.emit (.scalar none true "")

def setAnchor (name : String) (id : Nat) : List (String × Nat) → List (String × Nat)
  | [] => [(name, id)]
  | (k, i) :: rest => if k = name then (k, id) :: rest else (k, i) :: setAnchor name id rest

/-- Gives the next event's node the number of an anchor. -/
def register (anchor : Option String) (r : Reading) : Reading :=
  match anchor with
  | none => r
  | some name =>
    let id := r.anchors.length
    { r with anchors := setAnchor name id r.anchors, targets := (id, r.count) :: r.targets }

end Reading

open Reading

def standardHandles : List (String × Tag) :=
  [("!", Tag.ofString "!"), ("!!", Tag.standard "")]

def expandTag? (handles : List (String × Tag)) (handle : String) (suffix : Tag) :
    Option Tag :=
  if handle.isEmpty then some suffix else (handles.lookup handle).map (· ++ suffix)

/-- The anchor and the tag before a node, in either order. -/
structure Properties where
  anchor : Option String
  tag : Option Tag

def properties? (handles : List (String × Tag)) :
    List Token → Option (Properties × List Token)
  | .anchor a :: .tag h s :: ts => (expandTag? handles h s).map fun t => (⟨some a, some t⟩, ts)
  | .anchor a :: ts => some (⟨some a, none⟩, ts)
  | .tag h s :: .anchor a :: ts => (expandTag? handles h s).map fun t => (⟨some a, some t⟩, ts)
  | .tag h s :: ts => (expandTag? handles h s).map fun t => (⟨none, some t⟩, ts)
  | ts => some (⟨none, none⟩, ts)

def endsBlockValue : List Token → Bool
  | .key :: _ | .value :: _ | .blockEnd :: _ => true
  | _ => false

def endsAlignedItem : List Token → Bool
  | .blockEntry :: _ | .key :: _ | .value :: _ | .blockEnd :: _ => true
  | _ => false

def endsBlockItem : List Token → Bool
  | .blockEntry :: _ | .blockEnd :: _ => true
  | _ => false

def endsFlowKey : List Token → Bool
  | .value :: _ | .flowEntry :: _ | .flowMappingEnd :: _ => true
  | _ => false

def endsFlowValue : List Token → Bool
  | .flowEntry :: _ | .flowMappingEnd :: _ => true
  | _ => false

def endsPairKey : List Token → Bool
  | .value :: _ | .flowEntry :: _ | .flowSequenceEnd :: _ => true
  | _ => false

def endsPairValue : List Token → Bool
  | .flowEntry :: _ | .flowSequenceEnd :: _ => true
  | _ => false

/-- The comma between entries of a flow collection; none is due before the first. -/
def afterComma? (first : Bool) : List Token → Option (List Token)
  | .flowEntry :: ts => if first then some (.flowEntry :: ts) else some ts
  | ts => if first then some ts else none

mutual

/-- Reads a node. In flow collections it cannot be of a block style; as a value of a block mapping
it can be a sequence that is not indented further. -/
def node? (handles : List (String × Tag)) (block aligned : Bool) :
    Nat → Reading → Option Reading
  | 0, _ => none
  | fuel + 1, r =>
    match r.tokens with
    | .alias name :: ts =>
      (r.anchors.lookup name).map fun id => (r.withTokens ts).emit (.alias id)
    | ts =>
      match properties? handles ts with
      | none => none
      | some (p, ts) =>
        let r := register p.anchor (r.withTokens ts)
        match ts with
        | .scalar text plain :: ts =>
          some ((r.withTokens ts).emit (.scalar p.tag plain text))
        | .flowSequenceStart :: ts =>
          flowItems? handles true fuel ((r.withTokens ts).emit (.sequenceStart p.tag))
        | .flowMappingStart :: ts =>
          flowPairs? handles true fuel ((r.withTokens ts).emit (.mappingStart p.tag))
        | ts =>
          if block && ts.head? = some .blockSequenceStart then
            blockItems? handles fuel ((r.withTokens ts.tail).emit (.sequenceStart p.tag))
          else if block && ts.head? = some .blockMappingStart then
            blockPairs? handles fuel ((r.withTokens ts.tail).emit (.mappingStart p.tag))
          else if aligned && ts.head? = some .blockEntry then
            alignedItems? handles fuel (r.emit (.sequenceStart p.tag))
          else if p.anchor.isSome || p.tag.isSome then some (r.emit (.scalar p.tag true ""))
          else none

def blockItems? (handles : List (String × Tag)) : Nat → Reading → Option Reading
  | 0, _ => none
  | fuel + 1, r =>
    match r.tokens with
    | .blockEntry :: ts =>
      let r := r.withTokens ts
      if endsBlockItem ts then blockItems? handles fuel r.emitEmpty
      else match node? handles true false fuel r with
        | some r => blockItems? handles fuel r
        | none => none
    | .blockEnd :: ts => some ((r.withTokens ts).emit .sequenceEnd)
    | _ => none

/-- Reads the entries of a sequence that is indented as the mapping around it. -/
def alignedItems? (handles : List (String × Tag)) : Nat → Reading → Option Reading
  | 0, _ => none
  | fuel + 1, r =>
    match r.tokens with
    | .blockEntry :: ts =>
      let r := r.withTokens ts
      if endsAlignedItem ts then alignedItems? handles fuel r.emitEmpty
      else match node? handles true false fuel r with
        | some r => alignedItems? handles fuel r
        | none => none
    | _ => some (r.emit .sequenceEnd)

def blockPairs? (handles : List (String × Tag)) : Nat → Reading → Option Reading
  | 0, _ => none
  | fuel + 1, r =>
    match r.tokens with
    | .key :: ts =>
      let r := r.withTokens ts
      let key? := if endsBlockValue ts then some r.emitEmpty else node? handles true true fuel r
      match key? with
      | some r => blockValue? handles fuel r
      | none => none
    | .blockEnd :: ts => some ((r.withTokens ts).emit .mappingEnd)
    | _ => none

def blockValue? (handles : List (String × Tag)) : Nat → Reading → Option Reading
  | 0, _ => none
  | fuel + 1, r =>
    match r.tokens with
    | .value :: ts =>
      let r := r.withTokens ts
      let value? := if endsBlockValue ts then some r.emitEmpty else node? handles true true fuel r
      match value? with
      | some r => blockPairs? handles fuel r
      | none => none
    | _ => blockPairs? handles fuel r.emitEmpty

def flowItems? (handles : List (String × Tag)) (first : Bool) : Nat → Reading → Option Reading
  | 0, _ => none
  | fuel + 1, r =>
    match r.tokens with
    | .flowSequenceEnd :: ts => some ((r.withTokens ts).emit .sequenceEnd)
    | ts =>
      match afterComma? first ts with
      | none => none
      | some (.flowSequenceEnd :: ts) => some ((r.withTokens ts).emit .sequenceEnd)
      | some (.key :: ts) =>
        match pairKey? handles fuel ((r.withTokens ts).emit (.mappingStart none)) with
        | some r => flowItems? handles false fuel r
        | none => none
      | some ts =>
        match node? handles false false fuel (r.withTokens ts) with
        | some r => flowItems? handles false fuel r
        | none => none

/-- Reads the only pair of a mapping inside a flow sequence. A missing key takes the place of the
token that shows it is missing. -/
def pairKey? (handles : List (String × Tag)) : Nat → Reading → Option Reading
  | 0, _ => none
  | fuel + 1, r =>
    let key? :=
      if endsPairKey r.tokens then some (r.withTokens r.tokens.tail).emitEmpty
      else node? handles false false fuel r
    match key? with
    | none => none
    | some r =>
      match r.tokens with
      | .value :: ts =>
        let r := r.withTokens ts
        let value? :=
          if endsPairValue ts then some r.emitEmpty else node? handles false false fuel r
        value?.map (emit .mappingEnd)
      | _ => some (r.emitEmpty.emit .mappingEnd)

def flowPairs? (handles : List (String × Tag)) (first : Bool) : Nat → Reading → Option Reading
  | 0, _ => none
  | fuel + 1, r =>
    match r.tokens with
    | .flowMappingEnd :: ts => some ((r.withTokens ts).emit .mappingEnd)
    | ts =>
      match afterComma? first ts with
      | none => none
      | some (.flowMappingEnd :: ts) => some ((r.withTokens ts).emit .mappingEnd)
      | some (.key :: ts) =>
        let r := r.withTokens ts
        let key? := if endsFlowKey ts then some r.emitEmpty else node? handles false false fuel r
        match key? with
        | some r => flowValue? handles fuel r
        | none => none
      | some ts =>
        match node? handles false false fuel (r.withTokens ts) with
        | some r => flowPairs? handles false fuel r.emitEmpty
        | none => none

def flowValue? (handles : List (String × Tag)) : Nat → Reading → Option Reading
  | 0, _ => none
  | fuel + 1, r =>
    match r.tokens with
    | .value :: ts =>
      let r := r.withTokens ts
      let value? := if endsFlowValue ts then some r.emitEmpty else node? handles false false fuel r
      match value? with
      | some r => flowPairs? handles false fuel r
      | none => none
    | _ => flowPairs? handles false fuel r.emitEmpty

end

/-- Reads directives: at most one version, of the first major one, and no handle twice. The
standard handles may be given another expansion. -/
def directives? (versioned : Bool) (handles : List (String × Tag)) :
    List Token → Option (List (String × Tag) × List Token)
  | .version major minor :: ts =>
    if versioned || major != 1 || (minor != 1 && minor != 2) then none
    else directives? true handles ts
  | .tagHandle h e :: ts =>
    if (handles.lookup h).isSome then none else directives? versioned (handles ++ [(h, e)]) ts
  | ts => some (handles ++ standardHandles, ts)

/-- Whether a token cannot begin the content of a document that was begun by a mark. -/
def endsDocument : List Token → Bool
  | .version .. :: _ | .tagHandle .. :: _ | .documentStart :: _ | .documentEnd :: _
  | .streamEnd :: _ => true
  | _ => false

def content? (handles : List (String × Tag)) (r : Reading) : Option Reading :=
  if endsDocument r.tokens then some r.emitEmpty
  else node? handles true false (4 * r.tokens.length + 4) r

/-- Whether nothing but end marks is left. -/
def isEnd : List Token → Bool
  | .documentEnd :: ts => isEnd ts
  | [.streamEnd] => true
  | _ => false

/-- The events of tokens that hold one document; no tokens at all are a document without events. -/
def ofTokens? (tokens : List Token) : Option EventList :=
  let start := fun ts => (⟨ts, [], 0, [], []⟩ : Reading)
  let read? : Option Reading :=
    match tokens with
    | .streamEnd :: _ => some (start tokens)
    | .version .. :: _ | .tagHandle .. :: _ | .documentStart :: _ =>
      match directives? false [] tokens with
      | some (handles, .documentStart :: ts) => content? handles (start ts)
      | _ => none
    | _ => node? standardHandles true false (4 * tokens.length + 4) (start tokens)
  read?.bind fun r =>
    if isEnd r.tokens then some ⟨r.events.reverse, r.targets⟩ else none

end Event

end StepConditions.Yaml
