import Patchwork.Regex.Item

namespace Patchwork.Regex

/-- What has been read between two parentheses: the pieces of the branch that is being read, and the
branches before it, each latest first. -/
structure Level where
  pieces : List Tree
  branches : List Tree

namespace Level

def empty : Level := ⟨[], []⟩

def push (l : Level) (t : Tree) : Level := { l with pieces := t :: l.pieces }

def branch (l : Level) : Tree := .ofPieces l.pieces.reverse

def bar (l : Level) : Level := ⟨[], l.branch :: l.branches⟩

def finish (l : Level) : Tree :=
  match (l.branch :: l.branches).reverse with
  | [] => .empty
  | t :: rest => .ofBranches t rest

end Level

structure OpenGroup where
  before : Level
  kind : GroupKind
  verbose : Bool

structure Builder where
  level : Level
  outer : List OpenGroup
  verbose : Bool
  /-- The number of the latest capture group. -/
  captures : Nat
  names : List String

namespace Builder

def empty : Builder := ⟨.empty, [], false, 0, []⟩

/-- Opens a group; a name may be given to one group only. -/
def openGroup? (b : Builder) : Opening → Option Builder
  | .capture name =>
    match name with
    | some n =>
      if n ∈ b.names then none
      else some { b with
        level := .empty
        outer := ⟨b.level, .capture (b.captures + 1) name, b.verbose⟩ :: b.outer
        captures := b.captures + 1
        names := n :: b.names }
    | none =>
      some { b with
        level := .empty
        outer := ⟨b.level, .capture (b.captures + 1) none, b.verbose⟩ :: b.outer
        captures := b.captures + 1 }
  | .scoped changes =>
    some { b with
      level := .empty
      outer := ⟨b.level, .scoped changes, b.verbose⟩ :: b.outer
      verbose := FlagChange.verboseAfter changes b.verbose }

def closeGroup? (b : Builder) : Option Builder :=
  match b.outer with
  | [] => none
  | g :: outer =>
    some { b with
      level := g.before.push (.group g.kind b.level.finish)
      outer
      verbose := g.verbose }

/-- An operator applies to the piece before it, which must be there and be no directive. -/
def repeatLast? (b : Builder) (min : Nat) (max : Option Nat) (greedy : Bool) : Option Builder :=
  match b.level.pieces with
  | [] | .flags _ :: _ => none
  | t :: rest => some { b with level := { b.level with pieces := .repeat min max greedy t :: rest } }

def push? (b : Builder) : Item → Option Builder
  | .piece t => some { b with level := b.level.push t }
  | .operator min max greedy => b.repeatLast? min max greedy
  | .directive changes =>
    some { b with
      level := b.level.push (.flags changes)
      verbose := FlagChange.verboseAfter changes b.verbose }
  | .opening o => b.openGroup? o
  | .bar => some { b with level := b.level.bar }
  | .closing => b.closeGroup?

def run : Nat → Builder → List Char → Option Builder
  | 0, _, _ => none
  | fuel + 1, b, cs =>
    match afterBlanks b.verbose cs with
    | [] => some b
    | cs => do
      let (item, rest) ← Item.read b.verbose cs
      run fuel (← b.push? item) rest

end Builder

def Tree.parse? (pattern : List Char) : Option Tree := do
  let b ← Builder.run (pattern.length + 1) .empty pattern
  if b.outer.isEmpty then some b.level.finish else none

end Patchwork.Regex
