import StepConditions.Text.Alphanumeric
import StepConditions.Text.Blank
import StepConditions.Text.Utf8

/-!
# Variable files

A file of lines `NAME=value` adds variables to an environment; those that are set already keep
their value. Values may be quoted, strongly with single quotes or weakly with double quotes, and
outside strong quotes `$NAME` and braces after the dollar sign stand for a variable set before.
The first line that is no text or not understood ends the reading; what was read until then counts.
A value with the character zero, which no environment of a process holds, is a value like others.
-/
namespace StepConditions.CommandLine.Variables

/-- The file that is read before a run, in the working directory only: the directories around that
one are not searched for it. -/
def fileName : String := ".env"

abbrev Environment := String → Option String

inductive Mode where
  | text
  | strong
  | escaped
  /-- Inside a name after a dollar sign, in reverse. -/
  | name (cs : List Char)
  /-- Inside a name in braces, in reverse. -/
  | braced (cs : List Char)
  /-- Behind a value, where only blanks and a comment may follow. -/
  | ended
  | comment

/-- A value so far, in reverse, and whether a weak quote is open. -/
structure Reading where
  output : List Char
  weak : Bool
  mode : Mode

/-- The value of a variable whose name is given in reverse, itself in reverse. -/
def substitute (env : Environment) (cs : List Char) : List Char :=
  ((env (String.ofList cs.reverse)).getD "").toList.reverse

def escape? (c : Char) : Option Char :=
  if c == 'n' then some '\n' else if "\\'\"$ ".toList.contains c then some c else none

def Reading.step? (env : Environment) (r : Reading) (c : Char) : Option Reading :=
  let put := fun cs mode => some { r with output := cs ++ r.output, mode := mode }
  match r.mode with
  | .comment => some r
  | .ended =>
    if c == ' ' || c == '\t' then some r else if c == '#' then put [] .comment else none
  | .escaped => (escape? c).bind fun c => put [c] .text
  | .strong => if c == '\'' then put [] .text else put [c] .strong
  | .name cs =>
    if Text.isAlphanumeric c then put [] (.name (c :: cs))
    else if c == '\x7b' && cs.isEmpty then put [] (.braced [])
    else if c == '$' then put (substitute env cs) (.name [])
    else put (c :: substitute env cs) .text
  | .braced cs =>
    if c == '\x7d' then put (substitute env cs) .text else put [] (.braced (c :: cs))
  | .text =>
    if c == '$' then put [] (.name [])
    else if c == '\\' then put [] .escaped
    else if c == '"' then some { r with weak := !r.weak }
    else if r.weak then put [c] .text
    else if c == '\'' then put [] .strong
    else if c == ' ' || c == '\t' then put [] .ended
    else put [c] .text

/-- The value that has been read, if no quote or brace is open. -/
def Reading.finish? (env : Environment) (r : Reading) : Option String :=
  if r.weak then none
  else match r.mode with
    | .strong | .braced _ => none
    | .name cs => some (String.ofList (substitute env cs ++ r.output).reverse)
    | _ => some (String.ofList r.output.reverse)

def value? (env : Environment) (cs : List Char) : Option String :=
  (cs.foldlM (Reading.step? env) ⟨[], false, .text⟩).bind (Reading.finish? env)

def isNameStart (c : Char) : Bool :=
  c.isAlpha || c == '_'

def isNameChar (c : Char) : Bool :=
  c.isAlphanum || c == '_' || c == '.'

def skipSpace (cs : List Char) : List Char :=
  cs.dropWhile Text.isSpace

def name? (cs : List Char) : Option (String × List Char) :=
  if (cs.head?.map isNameStart).getD false then
    some (String.ofList (cs.takeWhile isNameChar), skipSpace (cs.dropWhile isNameChar))
  else none

/-- Takes a name and the equals sign off a line. The word `export` may come first; before an equals
sign it is a name itself. -/
def assigned? (cs : List Char) : Option (String × List Char) :=
  match name? cs with
  | some (name, '=' :: rest) => some (name, rest)
  | some ("export", cs) =>
    match name? cs with
    | some (name, '=' :: rest) => some (name, rest)
    | _ => none
  | _ => none

/-- What a line says: nothing, or a name and its value. None if it is not understood. -/
def line? (env : Environment) (line : List Char) : Option (Option (String × String)) :=
  let cs := skipSpace (Text.trimChars line)
  if cs.isEmpty || cs.head? == some '#' then some none
  else match assigned? cs with
    | none => none
    | some (name, cs) =>
      let cs := skipSpace cs
      if cs.isEmpty || cs.head? == some '#' then some (some (name, ""))
      else (value? env cs).map fun v => some (name, v)

/-- Sets a variable that has no value yet. -/
def Environment.define (env : Environment) (name value : String) : Environment :=
  fun n => (env n).orElse fun _ => if n = name then some value else none

def lines : List UInt8 → List (List UInt8)
  | [] => [[]]
  | b :: bs =>
    if b = 0x0A then [] :: lines bs
    else match lines bs with
      | [] => [[b]]
      | l :: ls => (b :: l) :: ls

/-- The lines up to the first that is no text. -/
def texts : List (List UInt8) → List (List Char)
  | [] => []
  | l :: ls =>
    match Text.ofUtf8 l with
    | .ok text => text.toList :: texts ls
    | .error _ => []

/-- Reads lines in turn up to the first that is not understood. -/
def extend (env : Environment) : List (List Char) → Environment
  | [] => env
  | l :: ls =>
    match line? env l with
    | none => env
    | some none => extend env ls
    | some (some (name, value)) => extend (env.define name value) ls

def Environment.withFile (env : Environment) (content : List UInt8) : Environment :=
  extend env (texts (lines content))

/-- The name that begins a text behind a dollar sign, in braces or not. -/
def referenceAt : List Char → String
  | '\x7b' :: cs => String.ofList (cs.takeWhile (· != '\x7d'))
  | cs => String.ofList (cs.takeWhile Text.isAlphanumeric)

def references : List Char → List String
  | [] => []
  | c :: cs => if c = '$' then referenceAt cs :: references cs else references cs

def namesIn (content : List UInt8) : List String :=
  (texts (lines content)).flatMap references

end StepConditions.CommandLine.Variables
