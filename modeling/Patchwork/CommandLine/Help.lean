import Patchwork.CommandLine.Request

namespace Patchwork.CommandLine.Help

def about : Level → String
  | .program => "Submatch - composable regular expressions with sub-match extraction"
  | .verb .compile => "Compile a pattern and show the flat pattern and its tables"
  | .verb .find => "Find matches and show their sub-matches"
  | .verb .test => "Check if pattern matches; exits with 1 when it does not"
  | .help => "Print this message or the help of the given subcommand(s)"

def usage : Level → String
  | .program => "submatch [OPTIONS] <COMMAND>"
  | .verb .compile => "submatch compile [OPTIONS] <PATTERN>"
  | .verb .find => "submatch find [OPTIONS] <PATTERN> <INPUT>"
  | .verb .test => "submatch test [OPTIONS] <PATTERN> <INPUT>"
  | .help => "submatch help [COMMAND]..."

def placeholder : Switch → String
  | .setting .define => " <ID=PATTERN>"
  | .setting .flags => " <FLAGS>"
  | .setting .maxDepth => " <MAX_DEPTH>"
  | .flag _ => ""

def purpose : Switch → String
  | .setting .define => "Register a sub-expression variant as ID=PATTERN (repeatable)"
  | .setting .flags => "Mode flags prepended to compiled patterns, e.g. \"is\" or \"m\""
  | .setting .maxDepth => "Maximum sub-expression nesting depth"
  | .flag .verbose => "Log compilation details"
  | .flag .all => "Show every match instead of the first"
  | .flag .help => "Print help"
  | .flag .version => "Print version"

def spelled (s : Switch) : String :=
  (match s.short? with
    | some c => String.ofList ['-', c, ',', ' ']
    | none => "    ") ++ "--" ++ s.long ++ placeholder s

def table (rows : List (String × String)) : List String :=
  let width := (rows.map fun r => r.1.length).foldl max 0
  rows.map fun r =>
    "  " ++ r.1 ++ String.ofList (List.replicate (width - r.1.length + 2) ' ') ++ r.2

def listing (title : String) (rows : List (String × String)) : List String :=
  if rows.isEmpty then [] else ["", title] ++ table rows

def commands : Level → List (String × String)
  | .program => Verb.all.map (fun v => (v.name, about (.verb v))) ++ [("help", about .help)]
  | _ => []

def pattern : String × String := ("<PATTERN>", "The pattern, with ${ID} references")

def input : String × String := ("<INPUT>", "The input string")

def arguments : Level → List (String × String)
  | .program => []
  | .verb .compile => [pattern]
  | .verb .find => [pattern, input]
  | .verb .test => [pattern, input]
  | .help => [("[COMMAND]...", "Print help for the subcommand(s)")]

def options (topic : Level) : List (String × String) :=
  topic.switches.map fun s => (spelled s, purpose s)

def lines (topic : Level) : List String :=
  [about topic, "", "Usage: " ++ usage topic] ++ listing "Commands:" (commands topic) ++
    listing "Arguments:" (arguments topic) ++ listing "Options:" (options topic)

end Patchwork.CommandLine.Help
