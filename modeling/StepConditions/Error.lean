/-!
# Errors

Evaluation itself fails closed and reports no error. These are the failures of the places that do
report one: comparisons without an operand, documents, stores, payloads and configuration.
-/
namespace StepConditions

/-- Why bytes are no UTF-8 text; `valid` counts the bytes before the fault. -/
inductive Utf8Fault where
  /-- A sequence of `length` bytes that no character has. -/
  | invalid (length valid : Nat)
  /-- A character cut short by the end. -/
  | incomplete (valid : Nat)
  deriving DecidableEq

def Utf8Fault.message : Utf8Fault → String
  | invalid length valid =>
    "invalid utf-8 sequence of " ++ toString length ++ " bytes from index " ++ toString valid
  | incomplete valid => "incomplete utf-8 byte sequence from index " ++ toString valid

inductive PayloadError where
  | invalidBase64
  | notGzip
  | damaged
  | invalidText (fault : Utf8Fault)
  deriving DecidableEq

/-- The wording that callers see; what a byte reader has to say about its input is left out. -/
def PayloadError.message : PayloadError → String
  | invalidBase64 => "Payload is not valid Base64"
  | notGzip => "Payload is not GZIP data"
  | damaged => "GZIP stream error"
  | invalidText fault => "Decompressed payload is not valid UTF-8: " ++ fault.message

inductive Error where
  /-- A value is missing, or of a shape that the operation cannot use. -/
  | invalidArgument (reason : String)
  | unknownOperator (token : String)
  /-- An element of a condition list cannot be used. -/
  | malformedCondition (index : Nat) (reason : String)
  /-- The source of current values failed. -/
  | resolver (reason : String)
  | configuration (reason : String)
  | payload (cause : PayloadError)
  /-- A file cannot be read as text. -/
  | file
  /-- A text is no JSON document. -/
  | json
  /-- A text is no YAML document. -/
  | yaml
  | other (reason : String)
  deriving DecidableEq

def Error.message : Error → String
  | invalidArgument reason => "Invalid argument: " ++ reason
  | unknownOperator token => "Unknown operator: '" ++ token ++ "'"
  | malformedCondition index reason =>
    "Malformed condition at index " ++ toString index ++ ": " ++ reason
  | resolver reason => "Resolver error: " ++ reason
  | configuration reason => "Configuration error: " ++ reason
  | payload cause => cause.message
  | file => "File cannot be read"
  | json => "Text is not a JSON document"
  | yaml => "Text is not a YAML document"
  | other reason => reason

end StepConditions
