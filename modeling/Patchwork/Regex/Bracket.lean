import Patchwork.Regex.Escape

namespace Patchwork.Regex.Bracket

/-- What waits for the members being read: a class that has been opened inside `outer`, or an
operator with its left side. -/
inductive Frame where
  | opened (outer : List ClassSet) (negated : Bool)
  | operator (op : ClassOp) (left : ClassSet)

def applyOperator : List Frame → ClassSet → List Frame × ClassSet
  | .operator op left :: frames, s => (frames, .combine op left s)
  | frames, s => (frames, s)

/-- The members read so far, latest first, become the left side of an operator. -/
def pushOperator (op : ClassOp) (frames : List Frame) (members : List ClassSet) : List Frame :=
  let (frames, left) := applyOperator frames (.ofMembers members.reverse)
  .operator op left :: frames

/-- What a closing bracket leaves: the class, and, unless it was the outermost, the frames and
members around it. -/
def close? (frames : List Frame) (members : List ClassSet) :
    Option (ClassSet × Option (List Frame × List ClassSet)) :=
  match applyOperator frames (.ofMembers members.reverse) with
  | ([.opened _ negated], s) => some (.bracketed negated s, none)
  | (.opened outer negated :: frames, s) => some (.bracketed negated s, some (frames, outer))
  | _ => none

def readHyphens (verbose : Bool) : Nat → List ClassSet → List Char →
    Option (List ClassSet × List Char)
  | 0, _, _ => none
  | fuel + 1, members, cs =>
    match afterBlanks verbose cs with
    | [] => none
    | '-' :: rest => readHyphens verbose fuel (.literal ⟨'-', false⟩ :: members) rest
    | cs => some (members, cs)

/-- The start of a class after its opening bracket: whether it is negated, and the hyphens or the one
closing bracket that are members there. -/
def readHead (verbose : Bool) (cs : List Char) : Option (Bool × List ClassSet × List Char) :=
  let cs := afterBlanks verbose cs
  let (negated, cs) := match cs with
    | '^' :: rest => (true, rest)
    | _ => (false, cs)
  match readHyphens verbose (cs.length + 1) [] cs with
  | some ([], ']' :: rest) =>
    match afterBlanks verbose rest with
    | [] => none
    | rest => some (negated, [.literal ⟨']', false⟩], rest)
  | some (members, rest) => some (negated, members, rest)
  | none => none

def readNamed? : List Char → Option (ClassSet × List Char)
  | ':' :: cs =>
    let (negated, cs) := match cs with
      | '^' :: rest => (true, rest)
      | _ => (false, cs)
    match cs.dropWhile (· ≠ ':') with
    | ':' :: ']' :: rest =>
      (NamedClass.ofName? (String.ofList (cs.takeWhile (· ≠ ':')))).map
        fun kind => (.named negated kind, rest)
    | _ => none
  | _ => none

def readMember (verbose : Bool) : List Char → Option (Tree × List Char)
  | [] => none
  | '\\' :: cs => readEscape verbose cs
  | c :: cs => some (.literal ⟨c, false⟩, cs)

/-- A range, or a member by itself. A hyphen makes no range before a closing bracket or another
hyphen. -/
def readRange (verbose : Bool) (cs : List Char) : Option (ClassSet × List Char) := do
  let (first, rest) ← readMember verbose cs
  match afterBlanks verbose rest with
  | [] => none
  | '-' :: more =>
    if peek verbose more = some ']' || peek verbose more = some '-' then
      match first with
      | .literal l => some (.literal l, '-' :: more)
      | .class s => some (s, '-' :: more)
      | _ => none
    else
      let (last, rest) ← readMember verbose (afterBlanks verbose more)
      match first, last with
      | .literal a, .literal b =>
        if a.char ≤ b.char then some (.range a b, rest) else none
      | _, _ => none
  | rest =>
    match first with
    | .literal l => some (.literal l, rest)
    | .class s => some (s, rest)
    | _ => none

def readMembers (verbose : Bool) : Nat → List Frame → List ClassSet → List Char →
    Option (ClassSet × List Char)
  | 0, _, _, _ => none
  | fuel + 1, frames, members, cs =>
    match afterBlanks verbose cs with
    | [] => none
    | '[' :: rest =>
      match readNamed? rest with
      | some (s, rest) => readMembers verbose fuel frames (s :: members) rest
      | none => do
        let (negated, inner, rest) ← readHead verbose rest
        readMembers verbose fuel (.opened members negated :: frames) inner rest
    | ']' :: rest => do
      let (s, around) ← close? frames members
      match around with
      | none => some (s, rest)
      | some (frames, outer) => readMembers verbose fuel frames (s :: outer) rest
    | '&' :: '&' :: rest => readMembers verbose fuel (pushOperator .intersection frames members) [] rest
    | '-' :: '-' :: rest => readMembers verbose fuel (pushOperator .difference frames members) [] rest
    | '~' :: '~' :: rest =>
      readMembers verbose fuel (pushOperator .symmetricDifference frames members) [] rest
    | cs => do
      let (s, rest) ← readRange verbose cs
      readMembers verbose fuel frames (s :: members) rest

def read (verbose : Bool) (cs : List Char) : Option (ClassSet × List Char) := do
  let (negated, members, rest) ← readHead verbose cs
  readMembers verbose (rest.length + 1) [.opened [] negated] members rest

end Patchwork.Regex.Bracket
