import Patchwork.CommandLine.Request
import Patchwork.Text.Numeral

namespace Patchwork.CommandLine

structure Reading where
  level : Level
  /-- What was said ahead of the verb. -/
  outer : Settings
  /-- What was said at the level that is being read. -/
  own : Settings
  all : Bool
  words : List String
  /-- The option whose value comes next. -/
  awaiting : Option Setting
  /-- Whether nothing that follows is an option any more. -/
  ended : Bool

inductive Progress where
  | reading (r : Reading)
  | settled (q : Request)

/-- Whether an argument has the form of an option; a single dash is a word. -/
def isSwitch (arg : String) : Bool := arg.toList.head? = some '-' && arg ≠ "-"

/-- Notes the value of an option. Only definitions may be given more than once. -/
def Settings.give (s : Settings) (value : String) : Setting → Except UsageError Settings
  | .define => .ok { s with definitions := s.definitions ++ [value] }
  | .flags =>
    if s.flags.isSome then .error (.repeated (.setting .flags))
    else .ok { s with flags := some value }
  | .maxDepth =>
    if s.maxDepth.isSome then .error (.repeated (.setting .maxDepth))
    else match Text.parseNumber? value.toList with
      | some n => .ok { s with maxDepth := some n }
      | none => .error (.invalidNumber .maxDepth value)

namespace Reading

def start : Reading := ⟨.program, .empty, .empty, false, [], none, false⟩

def give (r : Reading) (s : Setting) (value : String) : Except UsageError Progress := do
  return .reading { r with own := ← r.own.give value s, awaiting := none }

def raise (r : Reading) : Flag → Except UsageError Progress
  | .all =>
    if r.all then .error (.repeated (.flag .all)) else .ok (.reading { r with all := true })
  | .verbose =>
    if r.own.verbose then .error (.repeated (.flag .verbose))
    else .ok (.reading { r with own := { r.own with verbose := true } })
  | .help => .ok (.settled (.help r.level))
  | .version => .ok (.settled .version)

/-- Reads options by their letters, which may share one dash. What follows the letter of an option
with a value, an equals sign apart, is the value. -/
def cluster (r : Reading) : List Char → Except UsageError Progress
  | [] => .ok (.reading r)
  | c :: cs =>
    match r.level.switches.find? (·.short? = some c) with
    | none => .error (.unknownSwitch (String.ofList ['-', c]))
    | some (.flag f) => do
      match ← r.raise f with
      | .reading r => r.cluster cs
      | .settled q => return .settled q
    | some (.setting s) =>
      match cs with
      | [] => .ok (.reading { r with awaiting := some s })
      | '=' :: value => r.give s (String.ofList value)
      | value => r.give s (String.ofList value)

def named (r : Reading) (cs : List Char) : Except UsageError Progress :=
  let name := String.ofList (cs.takeWhile (· ≠ '='))
  match r.level.switches.find? (·.long = name), cs.dropWhile (· ≠ '=') with
  | none, _ => .error (.unknownSwitch ("--" ++ name))
  | some (.flag f), [] => r.raise f
  | some (.flag f), _ :: value => .error (.unexpectedValue f (String.ofList value))
  | some (.setting s), [] => .ok (.reading { r with awaiting := some s })
  | some (.setting s), _ :: value => r.give s (String.ofList value)

/-- Reads what is not an option: the verb, or a word that follows it. -/
def word (r : Reading) (arg : String) : Except UsageError Progress :=
  match r.level with
  | .program =>
    if r.ended then .error (.unknownVerb arg)
    else if arg = "help" then .ok (.reading { r with level := .help })
    else match Verb.ofString? arg with
      | some v => .ok (.reading { r with level := .verb v, outer := r.own, own := .empty })
      | none => .error (.unknownVerb arg)
  | .verb v =>
    if r.words.length < v.arity then .ok (.reading { r with words := r.words ++ [arg] })
    else .error (.unexpectedWord arg)
  | .help => .ok (.reading { r with words := r.words ++ [arg] })

def step (r : Reading) (arg : String) : Except UsageError Progress :=
  if r.ended || r.level = .help then r.word arg
  else match r.awaiting with
    | some s => if isSwitch arg then .error (.missingValue s) else r.give s arg
    | none =>
      match arg.toList with
      | ['-'] => r.word arg
      | ['-', '-'] => .ok (.reading { r with ended := true })
      | '-' :: '-' :: name => r.named name
      | '-' :: letters => r.cluster letters
      | _ => r.word arg

def topic : List String → Except UsageError Level
  | [] => .ok .program
  | ["help"] => .ok .help
  | [word] =>
    match Verb.ofString? word with
    | some v => .ok (.verb v)
    | none => .error (.unknownVerb word)
  | _ :: word :: _ => .error (.unknownVerb word)

def action (v : Verb) (words : List String) (all : Bool) : Except UsageError Action :=
  match v, words with
  | .compile, [source] => .ok (.compile source)
  | .find, [source, text] => .ok (.find source text all)
  | .test, [source, text] => .ok (.test source text)
  | _, _ => .error (.missingWord v)

def finish (r : Reading) : Except UsageError Request :=
  match r.awaiting, r.level with
  | some s, _ => .error (.missingValue s)
  | none, .program => .error .missingVerb
  | none, .verb v => do return .run (r.own.orElse r.outer) (← action v r.words r.all)
  | none, .help => do return .help (← topic r.words)

end Reading

namespace Progress

def step : Progress → String → Except UsageError Progress
  | reading r, arg => r.step arg
  | settled q, _ => .ok (settled q)

def finish : Progress → Except UsageError Request
  | reading r => r.finish
  | settled q => .ok q

end Progress

def Request.ofArguments (args : List String) : Except UsageError Request := do
  (← args.foldlM Progress.step (.reading .start)).finish

theorem foldlM_step_settled (args : List String) (q : Request) :
    args.foldlM Progress.step (.settled q) = .ok (.settled q) := by
  induction args with
  | nil => rfl
  | cons arg args ih => exact ih

end Patchwork.CommandLine
