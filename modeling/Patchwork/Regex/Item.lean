import Patchwork.Group.Name
import Patchwork.Regex.Bracket

namespace Patchwork.Regex

inductive Opening where
  | capture (name : Option String)
  | scoped (changes : List FlagChange)

inductive Item where
  | piece (t : Tree)
  | operator (min : Nat) (max : Option Nat) (greedy : Bool)
  | directive (changes : List FlagChange)
  | opening (o : Opening)
  | bar
  | closing

namespace Item

/-- The changes of a directive up to the character that ends it, a colon or a closing parenthesis. No
flag may be named twice; one hyphen may stand ahead of the flags to switch off. -/
def readFlags : (negated : Bool) → List FlagChange → List Char →
    Option (List FlagChange × Char × List Char)
  | _, changes, ':' :: cs => some (changes.reverse, ':', cs)
  | _, changes, ')' :: cs => some (changes.reverse, ')', cs)
  | negated, changes, '-' :: c :: cs =>
    if negated || c = ':' || c = ')' then none else readFlags true changes (c :: cs)
  | negated, changes, c :: cs => do
    let flag ← Flag.ofLetter? c
    if changes.any (·.flag = flag) then none else readFlags negated (⟨flag, !negated⟩ :: changes) cs
  | _, _, [] => none

def readName (cs : List Char) : Option (String × List Char) :=
  let name := cs.takeWhile (· ≠ '>')
  match cs.dropWhile (· ≠ '>') with
  | '>' :: rest => if GroupName.isName name then some (String.ofList name, rest) else none
  | _ => none

def readOpening (verbose : Bool) (cs : List Char) : Option (Item × List Char) :=
  match afterBlanks verbose cs with
  | '?' :: '=' :: _ | '?' :: '!' :: _ | '?' :: '<' :: '=' :: _ | '?' :: '<' :: '!' :: _ => none
  | '?' :: 'P' :: '<' :: rest | '?' :: '<' :: rest => do
    let (name, rest) ← readName rest
    return (.opening (.capture (some name)), rest)
  | '?' :: rest => do
    let (changes, finish, rest) ← readFlags false [] rest
    if finish = ':' then some (.opening (.scoped changes), rest)
    else if changes.isEmpty then none
    else some (.directive changes, rest)
  | rest => some (.opening (.capture none), rest)

def readGreed (cs : List Char) : Bool × List Char :=
  match cs with
  | '?' :: rest => (false, rest)
  | _ => (true, cs)

def readOperator (min : Nat) (max : Option Nat) (cs : List Char) : Item × List Char :=
  let (greedy, rest) := readGreed cs
  (.operator min max greedy, rest)

/-- The digits of a number, between which blanks may stand in verbose mode. -/
def readDigits (verbose : Bool) : Nat → Option Nat → List Char → Option Nat × List Char
  | 0, value, cs => (value, cs)
  | fuel + 1, value, cs =>
    match cs with
    | c :: rest =>
      if c.isDigit then
        readDigits verbose fuel (some (10 * value.getD 0 + (c.toNat - '0'.toNat)))
          (afterBlanks verbose rest)
      else (value, cs)
    | [] => (value, cs)

def countBound : Nat := 0x100000000

def readCount (verbose : Bool) (cs : List Char) : Option (Nat × List Char) := do
  let cs := cs.dropWhile Unicode.isWhiteSpace
  let (value, rest) := readDigits verbose cs.length none cs
  let n ← value
  if n < countBound then
    some (n, afterBlanks verbose (rest.dropWhile Unicode.isWhiteSpace))
  else none

def readCounted (verbose : Bool) (cs : List Char) : Option (Item × List Char) := do
  let (min, rest) ← readCount verbose (afterBlanks verbose cs)
  match rest with
  | '}' :: rest => some (readOperator min (some min) (afterBlanks verbose rest))
  | ',' :: rest =>
    match afterBlanks verbose rest with
    | '}' :: rest => some (readOperator min none (afterBlanks verbose rest))
    | rest =>
      let (max, rest) ← readCount verbose rest
      match rest with
      | '}' :: rest =>
        if min ≤ max then some (readOperator min (some max) (afterBlanks verbose rest)) else none
      | _ => none
  | _ => none

/-- Reads one item; blanks ahead of it have been skipped. -/
def read (verbose : Bool) : List Char → Option (Item × List Char)
  | [] => none
  | '(' :: cs => readOpening verbose cs
  | ')' :: cs => some (.closing, cs)
  | '|' :: cs => some (.bar, cs)
  | '?' :: cs => some (readOperator 0 (some 1) cs)
  | '*' :: cs => some (readOperator 0 none cs)
  | '+' :: cs => some (readOperator 1 none cs)
  | '{' :: cs => readCounted verbose cs
  | '[' :: cs => (Bracket.read verbose cs).map fun (s, rest) => (.piece (.class s), rest)
  | '\\' :: cs => (readEscape verbose cs).map fun (t, rest) => (.piece t, rest)
  | '.' :: cs => some (.piece .dot, cs)
  | '^' :: cs => some (.piece (.assertion .lineStart), cs)
  | '$' :: cs => some (.piece (.assertion .lineEnd), cs)
  | c :: cs => some (.piece (.literal ⟨c, false⟩), cs)

end Item

end Patchwork.Regex
