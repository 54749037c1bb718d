import Patchwork.Regex.ClassSet

namespace Patchwork.Regex

inductive Flag where
  | caseInsensitive
  | multiLine
  | dotAll
  | swapGreed
  | unicode
  | crlf
  | verbose
  deriving DecidableEq

def Flag.ofLetter? : Char → Option Flag
  | 'i' => some caseInsensitive
  | 'm' => some multiLine
  | 's' => some dotAll
  | 'U' => some swapGreed
  | 'u' => some unicode
  | 'R' => some crlf
  | 'x' => some verbose
  | _ => none

structure FlagChange where
  flag : Flag
  on : Bool
  deriving DecidableEq

def FlagChange.verboseAfter (changes : List FlagChange) (verbose : Bool) : Bool :=
  match changes.find? (·.flag = .verbose) with
  | some change => change.on
  | none => verbose

inductive Assertion where
  | lineStart
  | lineEnd
  | textStart
  | textEnd
  | wordBoundary
  | notWordBoundary
  | wordStart
  | wordEnd
  | wordStartHalf
  | wordEndHalf
  deriving DecidableEq

inductive GroupKind where
  | capture (index : Nat) (name : Option String)
  | scoped (changes : List FlagChange)
  deriving DecidableEq

inductive Tree where
  | empty
  | flags (changes : List FlagChange)
  | literal (l : Literal)
  | dot
  | assertion (a : Assertion)
  | class (s : ClassSet)
  | repeat (min : Nat) (max : Option Nat) (greedy : Bool) (t : Tree)
  | group (kind : GroupKind) (t : Tree)
  | seq (t u : Tree)
  | alt (t u : Tree)
  deriving DecidableEq

namespace Tree

def ofPieces : List Tree → Tree
  | [] => empty
  | [t] => t
  | t :: rest => seq t (ofPieces rest)

def ofBranches (t : Tree) : List Tree → Tree
  | [] => t
  | u :: rest => alt t (ofBranches u rest)

/-- Nesting of groups, repetitions, sequences, alternations and classes; a sequence of many pieces
is one level, and so is an alternation of many branches. -/
def depth : Tree → Nat
  | .class s => s.depth
  | .repeat _ _ _ t => t.depth + 1
  | group _ t => t.depth + 1
  | seq t u =>
    let rest := match u with
      | seq .. => u.depth
      | _ => u.depth + 1
    max (t.depth + 1) rest
  | alt t u =>
    let rest := match u with
      | alt .. => u.depth
      | _ => u.depth + 1
    max (t.depth + 1) rest
  | _ => 0

end Tree

end Patchwork.Regex
