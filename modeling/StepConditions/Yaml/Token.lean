import StepConditions.Yaml.Tag

/-!
# YAML tokens

The tokens of a YAML text. Indentation shows as tokens too: collections of the block style begin
where their first entry is indented and end where the indentation goes back.
-/
namespace StepConditions.Yaml

inductive Token where
  | version (major minor : Nat)
  /-- Tags that begin with the handle stand for tags that begin with the expansion. -/
  | tagHandle (handle : String) (expansion : Tag)
  | documentStart
  | documentEnd
  | streamEnd
  | blockSequenceStart
  | blockMappingStart
  | blockEnd
  | flowSequenceStart
  | flowSequenceEnd
  | flowMappingStart
  | flowMappingEnd
  | blockEntry
  | flowEntry
  | key
  | value
  | alias (name : String)
  | anchor (name : String)
  | tag (handle : String) (suffix : Tag)
  /-- The text of a scalar, and whether it was written without quotes or an indicator. -/
  | scalar (text : String) (plain : Bool)
  deriving DecidableEq

end StepConditions.Yaml
