import StepConditions.Payload.Base64
import StepConditions.Payload.Gzip
import StepConditions.Text.Blank
import StepConditions.Text.Utf8

/-!
# Packed texts

A text is packed as the Base64 form of a gzip member of its UTF-8 bytes; the empty text is packed
as itself.
-/
namespace StepConditions.Payload

def pack (text : String) : String :=
  if text.isEmpty then ""
  else String.ofList (Base64.encode (Gzip.wrap (Text.utf8 text)))

def unpackBytes (bytes : List UInt8) : Except PayloadError String :=
  if Gzip.magic.isPrefixOf bytes then
    match Gzip.unwrap? bytes with
    | none => .error .damaged
    | some out => (Text.ofUtf8 out).mapError .invalidText
  else .error .notGzip

/-- The text that was packed; white space around the packed form is no part of it. -/
def unpack (packed : String) : Except PayloadError String :=
  let cs := Text.trimChars packed.toList
  if cs.isEmpty then .ok ""
  else match Base64.decode cs with
    | none => .error .invalidBase64
    | some bytes => unpackBytes bytes

end StepConditions.Payload
