/-!
# Help texts

What is printed when help or the version is asked for.
-/
namespace StepConditions.CommandLine.Help

def versionText : String := "stepgate-rs 0.1.0\n"

def overview : List String :=
  ["Usage: stepgate <COMMAND>",
   "",
   "Commands:",
   "  eval        Evaluate a condition list against step data",
   "  path        Print the node at a dot path in a document",
   "  redirect    Print the redirection name and target step of a document",
   "  escape      HTML-escape text",
   "  compress    gzip and Base64-encode text",
   "  decompress  Reverse `compress`",
   "  whoami      Show the current actor",
   "  help        Print this message or the help of the given subcommand(s)",
   "",
   "Options:",
   "  -h, --help     Print help",
   "  -V, --version  Print version"]

def textCommand (name about : String) : List String :=
  [about,
   "",
   "Usage: stepgate " ++ name ++ " <TEXT>",
   "",
   "Arguments:",
   "  <TEXT>  ",
   "",
   "Options:",
   "  -h, --help  Print help"]

def eval : List String :=
  ["Evaluate a condition list against step data",
   "",
   "Usage: stepgate eval [OPTIONS] --conditions <CONDITIONS> --data <DATA>",
   "",
   "Options:",
   "  -c, --conditions <CONDITIONS>  Path to the condition list (JSON or YAML)",
   "  -d, --data <DATA>              Path to the step data, keyed by step then field (JSON or YAML)",
   "      --coercion <COERCION>      How resolved values are coerced: text or match-expected",
   "  -h, --help                     Print help"]

def path : List String :=
  ["Print the node at a dot path in a document",
   "",
   "Usage: stepgate path --document <DOCUMENT> --path <PATH>",
   "",
   "Options:",
   "  -d, --document <DOCUMENT>  Path to the document (JSON or YAML)",
   "  -p, --path <PATH>          Dot-separated path, e.g. a.b.c",
   "  -h, --help                 Print help"]

def redirect : List String :=
  ["Print the redirection name and target step of a document",
   "",
   "Usage: stepgate redirect --document <DOCUMENT>",
   "",
   "Options:",
   "  -d, --document <DOCUMENT>  Path to the redirection document (JSON or YAML)",
   "  -h, --help                 Print help"]

def whoami : List String :=
  ["Show the current actor",
   "",
   "Usage: stepgate whoami",
   "",
   "Options:",
   "  -h, --help  Print help"]

def help : List String :=
  ["Print this message or the help of the given subcommand(s)",
   "",
   "Usage: stepgate help [COMMAND]...",
   "",
   "Arguments:",
   "  [COMMAND]...  Print help for the subcommand(s)"]

def linesOf : Option String → List String
  | some "eval" => eval
  | some "path" => path
  | some "redirect" => redirect
  | some "escape" => textCommand "escape" "HTML-escape text"
  | some "compress" => textCommand "compress" "gzip and Base64-encode text"
  | some "decompress" => textCommand "decompress" "Reverse `compress`"
  | some "whoami" => whoami
  | some "help" => help
  | _ => overview

def text (topic : Option String) : String :=
  String.join ((linesOf topic).map (· ++ "\n"))

end StepConditions.CommandLine.Help
