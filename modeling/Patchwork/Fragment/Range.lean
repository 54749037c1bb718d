import Patchwork.Fragment
import Patchwork.Text.Numeral
import Patchwork.Unicode.Character

namespace Patchwork

def splitAt (separator : Char) : List Char → List (List Char)
  | [] => [[]]
  | c :: cs =>
    match splitAt separator cs with
    | [] => [[c]]
    | field :: fields => if c = separator then [] :: field :: fields else (c :: field) :: fields

/-- The arguments of a call: its text split at commas, blanks included. -/
def argumentsOf (args : String) : List String := (splitAt ',' args.toList).map String.ofList

namespace NumberRange

def maxLength : Nat := 10000

def maxWidth : Nat := 64

def trimStart (cs : List Char) : List Char := cs.dropWhile Unicode.isWhiteSpace

def trim (cs : List Char) : List Char := (trimStart (trimStart cs).reverse).reverse

def argument (index : Nat) (raw : String) : Except FragmentError Nat :=
  match Text.parseNumber? (trim raw.toList) with
  | some n => .ok n
  | none => .error (.invalidArgument index raw)

def padded (width n : Nat) : String :=
  let digits := (toString n).toList
  String.ofList (List.replicate (width - digits.length) '0' ++ digits)

def alternation (first last width : Nat) : String :=
  "(?:" ++ String.intercalate "|" ((List.range' first (last + 1 - first)).map (padded width)) ++ ")"

def widthOf : List String → Except FragmentError Nat
  | [] => .ok 1
  | raw :: _ => do
    let width ← argument 2 raw
    if width ≤ maxWidth then .ok width else .error (.invalidArgument 2 raw)

/-- The numbers from the first argument to the second, each at least as wide as the third says. -/
def execute : List String → Except FragmentError String
  | rawFirst :: rawLast :: more => do
    let first ← argument 0 rawFirst
    let last ← argument 1 rawLast
    let width ← widthOf more
    if first > last then .error (.emptyRange first last)
    else if last - first ≥ maxLength then .error (.rangeTooLarge first last maxLength)
    else .ok (alternation first last width)
  | args => .error (.missingArguments 2 args.length)

end NumberRange

def Fragment.execute : Fragment → List String → Except FragmentError String
  | range, args => NumberRange.execute args
  | custom run, args => run args

end Patchwork
