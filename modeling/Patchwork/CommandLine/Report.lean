import Patchwork.CommandLine.Arguments
import Patchwork.CommandLine.Help
import Patchwork.Compile
import Patchwork.Match

namespace Patchwork.CommandLine

inductive Failure where
  | misuse (cause : UsageError)
  | definition (text : String)
  | expression (cause : CompileError)
  deriving DecidableEq

def Failure.message : Failure → String
  | misuse cause => "error: " ++ cause.message
  | definition text => "Error: invalid definition '" ++ text ++ "', expected ID=PATTERN"
  | expression cause => "Error: " ++ cause.message

inductive Ending where
  | success
  | noMatch
  | failure (f : Failure)
  deriving DecidableEq

def Ending.status : Ending → Nat
  | success => 0
  | noMatch => 1
  | failure (.misuse _) => 2
  | failure _ => 1

structure Outcome where
  lines : List String
  ending : Ending
  deriving DecidableEq

def Outcome.text (o : Outcome) : String := String.join (o.lines.map (· ++ "\n"))

/-- The identifier and the source of a definition, which its first equals sign parts. -/
def definition? (text : String) : Option (String × String) :=
  match text.toList.takeWhile (· ≠ '='), text.toList.dropWhile (· ≠ '=') with
  | [], _ => none
  | _, [] => none
  | id, _ :: source => some (String.ofList id, String.ofList source)

def define (r : Registry × Store) (text : String) : Except Failure (Registry × Store) :=
  match definition? text with
  | some (id, source) =>
    let (_, registry, store) := r.1.add id source r.2
    .ok (registry, store)
  | none => .error (.definition text)

def Settings.options (s : Settings) : Options where
  flags := (s.flags.map ModeFlags.ofString).getD .standard
  maxDepth := s.maxDepth.getD Options.defaultMaxDepth

def Settings.registry (s : Settings) : Except Failure (Registry × Store) :=
  s.definitions.foldlM define
    ((Registry.withOptions s.options).addFunction "range" .range, Store.empty)

def compiledLines (c : CompiledExpression) : List String :=
  let named := c.names.toList.map fun e => s!"  Group {e.1}: " ++ e.2
  let subs := c.anchors.toList.map fun e =>
    let variants := ((c.variants? e.2.id).getD []).length
    s!"  Group {e.1}: " ++ e.2.id ++ s!"#{e.2.occurrence} ({variants} variant(s))"
  ["Output:", "  " ++ c.pattern, s!"  Groups: {c.groupCount - 1}"] ++
    (if named.isEmpty then [] else ["", "Named groups:"] ++ named) ++
    (if subs.isEmpty then [] else ["", "Sub-expressions:"] ++ subs)

def foundLine (label : String) (m : Match) : String :=
  label ++ s!" {m.range.start}..{m.range.stop} = " ++ m.matched

def blanks (n : Nat) : String := String.ofList (List.replicate n ' ')

/-- The name under which an occurrence is listed; it is numbered if it is not the only one. -/
def subLabel (id : String) (occurrences k : Nat) : String :=
  "$\x7b" ++ id ++ "\x7d" ++ if occurrences > 1 then s!"#{k}" else ""

/-- The lines about the named groups of a match and about its sub-matches, each with its own, which
are indented by two more. -/
def partLines (indent : Nat) (m : Match) : List String :=
  (m.namedGroups.map fun g => blanks indent ++ g.1 ++ " = " ++ g.2) ++
    m.subIds.flatMap fun id =>
      let occurrences := m.expression.anchors.occurrences id
      (List.range occurrences).flatMap fun k =>
        match h : m.subMatch? id k with
        | none => []
        | some s =>
          have := Match.sizeOf_lt_of_subMatch? h
          foundLine (blanks indent ++ subLabel id occurrences k) s :: partLines (indent + 2) s
termination_by sizeOf m.expression

def matchLines (number : Nat) (m : Match) : List String :=
  ["", foundLine s!"  Match {number}:" m] ++ partLines 4 m

def foundLines (ms : List Match) : List String :=
  if ms.isEmpty then ["No matches found"]
  else s!"Found {ms.length} match(es)" :: (ms.zipIdx 1).flatMap fun (m, number) => matchLines number m

def perform (c : CompiledExpression) : Action → Outcome
  | .compile _ => ⟨compiledLines c, .success⟩
  | .find _ text all =>
    ⟨foundLines (if all then c.findAll text else (c.find? text).toList), .success⟩
  | .test _ text =>
    if c.isMatch text then ⟨["✓ Matches"], .success⟩ else ⟨["✗ Does not match"], .noMatch⟩

def Action.heading : Action → List String
  | .compile source => ["Compiling pattern...", "  Input:  " ++ source, ""]
  | _ => []

def Action.source : Action → String
  | .compile source | .find source _ _ | .test source _ => source

def Action.run (a : Action) (r : Registry × Store) : Outcome :=
  match ((r.1.compile a.source).run r.2).1 with
  | .ok c =>
    let o := perform c a
    { o with lines := a.heading ++ o.lines }
  | .error cause => ⟨a.heading, .failure (.expression cause)⟩

def Request.answer : Request → Outcome
  | version => ⟨["submatch 0.1.0"], .success⟩
  | help topic => ⟨Help.lines topic, .success⟩
  | run settings action =>
    match settings.registry with
    | .ok r => action.run r
    | .error f => ⟨[], .failure f⟩

def outcome (args : List String) : Outcome :=
  match Request.ofArguments args with
  | .ok q => q.answer
  | .error cause => ⟨[], .failure (.misuse cause)⟩

end Patchwork.CommandLine
