import StepConditions.Text.Utf8

/-!
# Tags

A tag names the kind of a node. Tags are bytes: an escape can spell bytes that no text has, and a
tag ends before its first zero byte.
-/
namespace StepConditions.Yaml

abbrev Tag := List UInt8

namespace Tag

def ofString (s : String) : Tag :=
  Text.utf8 s

def untilZero (bytes : List UInt8) : Tag :=
  bytes.takeWhile (· != 0)

def standardStart : String := "tag:yaml.org,2002:"

def standard (kind : String) : Tag :=
  ofString (standardStart ++ kind)

/-- Local tags, and the tag that is a mark alone, begin with a mark. -/
def isLocal (t : Tag) : Bool :=
  (ofString "!").isPrefixOf t

/-- A document has no place for local tags; those that are no text are disregarded. -/
def isForeign (t : Tag) : Bool :=
  t.isLocal && (Text.ofUtf8 t).isOk

end Tag

end StepConditions.Yaml
