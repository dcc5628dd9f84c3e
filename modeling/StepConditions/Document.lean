import StepConditions.Error
import StepConditions.Json.Reader
import StepConditions.Text.Utf8
import StepConditions.Yaml.Document

/-!
# Document files

Conditions and step data are written in JSON or YAML and read into the same documents. The name of
a file tells the format: YAML if it ends in `.yaml` or `.yml`, JSON otherwise.
-/
namespace StepConditions.Document

inductive Format where
  | json
  | yaml
  deriving DecidableEq

inductive File where
  | missing
  | directory
  | bytes (content : List UInt8)

/-- The last part of a path that names something. -/
def fileName (path : String) : List Char :=
  ((path.toList.reverse.dropWhile (· == '/')).takeWhile (· != '/')).reverse

/-- What follows the last dot of a file name, if something comes before that dot. -/
def extension? (name : List Char) : Option (List Char) :=
  let after := (name.reverse.takeWhile (· != '.')).reverse
  if name == ['.', '.'] || name.length ≤ after.length + 1 then none else some after

def formatOf (path : String) : Format :=
  match extension? (fileName path) with
  | some e => if e == "yaml".toList || e == "yml".toList then .yaml else .json
  | none => .json

def parse (format : Format) (text : String) : Except Error Json :=
  match format with
  | .json => (Json.parse? text).elim (.error .json) .ok
  | .yaml => (Yaml.parse? text).elim (.error .yaml) .ok

/-- The document in a file, which has to be UTF-8 text. -/
def load (path : String) : File → Except Error Json
  | .bytes content =>
    match Text.ofUtf8 content with
    | .ok text => parse (formatOf path) text
    | .error _ => .error .file
  | _ => .error .file

end StepConditions.Document
