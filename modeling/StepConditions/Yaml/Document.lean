import StepConditions.Yaml.Event
import StepConditions.Yaml.Scalar

/-!
# YAML documents

A text that holds one YAML document is read into the same documents as JSON. Keys are the texts of
scalars as they were written. Aliases stand for copies of their node; collections nest at most 128
deep, through aliases too, and there are at most a hundred aliases followed for each event.
-/
namespace StepConditions.Yaml

/-- A node, the count of aliases followed so far, and the events behind the node. -/
structure Built (α : Type) where
  value : α
  jumps : Nat
  rest : List Event

namespace EventList

/-- Follows an alias: the events from its node on, if not too many were followed. -/
def jump? (d : EventList) (id jumps : Nat) : Option (Nat × List Event) :=
  let jumps := jumps + 1
  if 100 * d.events.length < jumps then none
  else (d.targets.lookup id).map fun n => (jumps, d.events.drop n)

def key? (d : EventList) (jumps : Nat) : List Event → Option (Built String)
  | .scalar _ _ text :: es => some ⟨text, jumps, es⟩
  | .alias id :: es =>
    match d.jump? id jumps with
    | some (jumps, .scalar _ _ text :: _) => some ⟨text, jumps, es⟩
    | _ => none
  | _ => none

mutual

/-- Reads a node; `depth` more collections may open. -/
def node? (d : EventList) (depth : Nat) : Nat → Nat → List Event → Option (Built Json)
  | 0, _, _ => none
  | fuel + 1, jumps, es =>
    match es with
    | .scalar tag plain text :: es => (scalar? tag plain text).map (⟨·, jumps, es⟩)
    | .alias id :: es =>
      match d.jump? id jumps with
      | none => none
      | some (jumps, target) =>
        (d.node? depth fuel jumps target).map fun b => ⟨b.value, b.jumps, es⟩
    | .sequenceStart tag :: es =>
      match depth with
      | 0 => none
      | depth + 1 =>
        if tag.any Tag.isForeign then none
        else (d.items? depth [] fuel jumps es).map fun b => ⟨.array b.value, b.jumps, b.rest⟩
    | .mappingStart tag :: es =>
      match depth with
      | 0 => none
      | depth + 1 =>
        if tag.any Tag.isForeign then none
        else (d.pairs? depth [] fuel jumps es).map fun b => ⟨.object b.value, b.jumps, b.rest⟩
    | _ => none

/-- Reads nodes up to the end of a sequence; `acc` holds the earlier ones in reverse. -/
def items? (d : EventList) (depth : Nat) (acc : List Json) :
    Nat → Nat → List Event → Option (Built (List Json))
  | 0, _, _ => none
  | fuel + 1, jumps, es =>
    match es with
    | .sequenceEnd :: es => some ⟨acc.reverse, jumps, es⟩
    | es =>
      match d.node? depth fuel jumps es with
      | none => none
      | some b => d.items? depth (b.value :: acc) fuel b.jumps b.rest

/-- Reads pairs up to the end of a mapping; `acc` holds the earlier ones. -/
def pairs? (d : EventList) (depth : Nat) (acc : List (String × Json)) :
    Nat → Nat → List Event → Option (Built (List (String × Json)))
  | 0, _, _ => none
  | fuel + 1, jumps, es =>
    match es with
    | .mappingEnd :: es => some ⟨acc, jumps, es⟩
    | es =>
      match d.key? jumps es with
      | none => none
      | some k =>
        match d.node? depth fuel k.jumps k.rest with
        | none => none
        | some b => d.pairs? depth (Json.setMember k.value b.value acc) fuel b.jumps b.rest

end

def depthLimit : Nat := 128

/-- The document of the events; no events are null. The fuel covers a way from the root to any
event: on each level no more steps than there are events. -/
def document? (d : EventList) : Option Json :=
  if d.events.isEmpty then some .null
  else
    (d.node? depthLimit ((depthLimit + 2) * (d.events.length + 2)) 0 d.events).map (·.value)

end EventList

def parse? (text : String) : Option Json := do
  let tokens ← Token.scan? text.toList
  let events ← Event.ofTokens? tokens
  events.document?

end StepConditions.Yaml
