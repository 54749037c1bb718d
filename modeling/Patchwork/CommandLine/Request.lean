namespace Patchwork.CommandLine

inductive Verb where
  | compile
  | find
  | test
  deriving DecidableEq

namespace Verb

def all : List Verb := [compile, find, test]

def name : Verb → String
  | compile => "compile"
  | find => "find"
  | test => "test"

def ofString? (word : String) : Option Verb := all.find? (·.name = word)

def arity : Verb → Nat
  | compile => 1
  | find | test => 2

theorem ofString?_name (v : Verb) : ofString? v.name = some v := by cases v <;> decide

end Verb

/-- Whose options are being read: those of the program or of a verb. After `help` there are none. -/
inductive Level where
  | program
  | verb (v : Verb)
  | help
  deriving DecidableEq

inductive Flag where
  | all
  | verbose
  | help
  | version
  deriving DecidableEq

inductive Setting where
  | define
  | flags
  | maxDepth
  deriving DecidableEq

inductive Switch where
  | flag (f : Flag)
  | setting (s : Setting)
  deriving DecidableEq

namespace Switch

def short? : Switch → Option Char
  | flag .all => some 'a'
  | flag .verbose => some 'v'
  | flag .help => some 'h'
  | flag .version => some 'V'
  | setting .define => some 'd'
  | setting _ => none

def long : Switch → String
  | flag .all => "all"
  | flag .verbose => "verbose"
  | flag .help => "help"
  | flag .version => "version"
  | setting .define => "define"
  | setting .flags => "flags"
  | setting .maxDepth => "max-depth"

def everywhere : List Switch := [setting .define, setting .flags, setting .maxDepth, flag .verbose]

end Switch

def Level.switches : Level → List Switch
  | program => Switch.everywhere ++ [.flag .help, .flag .version]
  | verb .find => .flag .all :: Switch.everywhere ++ [.flag .help]
  | verb _ => Switch.everywhere ++ [.flag .help]
  | help => []

structure Settings where
  definitions : List String
  flags : Option String
  maxDepth : Option Nat
  verbose : Bool
  deriving DecidableEq

namespace Settings

def empty : Settings := ⟨[], none, none, false⟩

/-- What is said after the verb stands in place of what is said ahead of it. -/
def orElse (own outer : Settings) : Settings where
  definitions := if own.definitions.isEmpty then outer.definitions else own.definitions
  flags := own.flags.or outer.flags
  maxDepth := own.maxDepth.or outer.maxDepth
  verbose := own.verbose || outer.verbose

@[simp]
theorem empty_orElse (s : Settings) : empty.orElse s = s := by simp [empty, orElse]

@[simp]
theorem orElse_empty (s : Settings) : s.orElse empty = s := by
  obtain ⟨ds, fs, md, v⟩ := s
  cases ds <;> simp [empty, orElse]

end Settings

inductive Action where
  | compile (source : String)
  | find (source text : String) (all : Bool)
  | test (source text : String)
  deriving DecidableEq

inductive Request where
  | run (settings : Settings) (action : Action)
  | version
  | help (topic : Level)
  deriving DecidableEq

inductive UsageError where
  | unknownSwitch (text : String)
  | unknownVerb (word : String)
  | missingVerb
  | missingWord (v : Verb)
  | unexpectedWord (word : String)
  | missingValue (s : Setting)
  | unexpectedValue (f : Flag) (value : String)
  | invalidNumber (s : Setting) (value : String)
  | repeated (s : Switch)
  deriving DecidableEq

def UsageError.message : UsageError → String
  | unknownSwitch text => "unexpected argument '" ++ text ++ "' found"
  | unknownVerb word => "unrecognized subcommand '" ++ word ++ "'"
  | missingVerb => "a subcommand is required"
  | missingWord v => "'" ++ v.name ++ "' needs more arguments"
  | unexpectedWord word => "unexpected argument '" ++ word ++ "' found"
  | missingValue s => "a value is required for '--" ++ (Switch.setting s).long ++ "'"
  | unexpectedValue f value =>
    "unexpected value '" ++ value ++ "' for '--" ++ (Switch.flag f).long ++ "'"
  | invalidNumber s value =>
    "invalid value '" ++ value ++ "' for '--" ++ (Switch.setting s).long ++ "'"
  | repeated s => "the argument '--" ++ s.long ++ "' cannot be used multiple times"

end Patchwork.CommandLine
