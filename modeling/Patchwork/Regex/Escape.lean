import Patchwork.Regex.Blank
import Patchwork.Regex.Tree

namespace Patchwork.Regex

def hexDigit? (c : Char) : Option Nat :=
  if c.isDigit then some (c.toNat - '0'.toNat)
  else if 'a' ≤ c ∧ c ≤ 'f' then some (c.toNat - 'a'.toNat + 10)
  else if 'A' ≤ c ∧ c ≤ 'F' then some (c.toNat - 'A'.toNat + 10)
  else none

def charOfCode? (n : Nat) : Option Char := if n.isValidChar then some (Char.ofNat n) else none

def readHexDigits (verbose : Bool) : Nat → Nat → List Char → Option (Nat × List Char)
  | 0, value, cs => some (value, cs)
  | _ + 1, _, [] => none
  | n + 1, value, c :: cs => do
    let digit ← hexDigit? c
    readHexDigits verbose n (16 * value + digit) (afterBlanks verbose cs)

/-- Hexadecimal digits up to a closing brace, which may not come first. -/
def readHexBrace (verbose : Bool) : Nat → Option Nat → List Char → Option (Nat × List Char)
  | 0, _, _ => none
  | fuel + 1, value, cs =>
    match afterBlanks verbose cs with
    | [] => none
    | '}' :: rest => do return (← value, afterBlanks verbose rest)
    | c :: rest => do
      let digit ← hexDigit? c
      readHexBrace verbose fuel (some (16 * value.getD 0 + digit)) rest

/-- A character by its code point: `digits` hexadecimal digits, or any number of them in braces. -/
def readCodePoint (verbose : Bool) (digits : Nat) (cs : List Char) :
    Option (Literal × List Char) := do
  match afterBlanks verbose cs with
  | '{' :: inside =>
    let (n, rest) ← readHexBrace verbose (inside.length + 1) none inside
    return (⟨← charOfCode? n, false⟩, rest)
  | cs =>
    let (n, rest) ← readHexDigits verbose digits 0 cs
    return (⟨← charOfCode? n, digits = 2⟩, rest)

def readBraced (verbose : Bool) : Nat → List Char → List Char → Option (List Char × List Char)
  | 0, _, _ => none
  | fuel + 1, taken, cs =>
    match afterBlanks verbose cs with
    | [] => none
    | '}' :: rest => some (taken.reverse, rest)
    | c :: rest => readBraced verbose fuel (c :: taken) rest

def splitAround? (separator : List Char) : List Char → Option (List Char × List Char)
  | [] => none
  | c :: cs =>
    if separator.isPrefixOf (c :: cs) then some ([], (c :: cs).drop separator.length)
    else (splitAround? separator cs).map fun (before, after) => (c :: before, after)

def PropertyQuery.ofBraced (cs : List Char) : Bool × PropertyQuery :=
  let valued (parts : List Char × List Char) :=
    PropertyQuery.valued (String.ofList parts.1) (String.ofList parts.2)
  match splitAround? ['!', '='] cs with
  | some parts => (true, valued parts)
  | none =>
    match (splitAround? [':'] cs).or (splitAround? ['='] cs) with
    | some parts => (false, valued parts)
    | none => (false, .named (String.ofList cs))

def readProperty (verbose negated : Bool) (cs : List Char) : Option (ClassSet × List Char) := do
  match afterBlanks verbose cs with
  | [] => none
  | '\\' :: _ => none
  | '{' :: inside =>
    let (name, rest) ← readBraced verbose (inside.length + 1) [] inside
    let (unequal, query) := PropertyQuery.ofBraced name
    return (.property (negated != unequal) query, rest)
  | c :: rest => some (.property negated (.named (String.ofList [c])), afterBlanks verbose rest)

def isMeta (c : Char) : Bool := "\\.+*?()|[]{}^$#&-~".toList.contains c

/-- Characters that an escape stands for themselves: all of ASCII but letters, digits and angle
brackets. -/
def isEscapable (c : Char) : Bool :=
  isMeta c || c.toNat < 128 && !c.isAlphanum && c ≠ '<' && c ≠ '>'

def isBoundaryNamePart (c : Char) : Bool := c.isAlpha || c = '-'

def readBoundaryName (verbose : Bool) :
    Nat → List Char → List Char → Option (List Char × List Char)
  | 0, _, _ => none
  | fuel + 1, taken, cs =>
    match afterBlanks verbose cs with
    | '}' :: rest => some (taken.reverse, rest)
    | c :: rest =>
      if isBoundaryNamePart c then readBoundaryName verbose fuel (c :: taken) rest else none
    | [] => none

def Assertion.ofBoundaryName? (name : List Char) : Option Assertion :=
  match String.ofList name with
  | "start" => some .wordStart
  | "end" => some .wordEnd
  | "start-half" => some .wordStartHalf
  | "end-half" => some .wordEndHalf
  | _ => none

/-- A word boundary, perhaps of a kind named in braces; braces that begin otherwise belong to a
repetition. -/
def readWordBoundary (verbose : Bool) (cs : List Char) : Option (Assertion × List Char) :=
  match cs with
  | '{' :: inside =>
    match afterBlanks verbose inside with
    | [] => none
    | c :: _ =>
      if isBoundaryNamePart c then do
        let (name, rest) ← readBoundaryName verbose (inside.length + 1) [] inside
        return (← Assertion.ofBoundaryName? name, rest)
      else some (.wordBoundary, cs)
  | _ => some (.wordBoundary, cs)

def controlChar? : Char → Option Char
  | 'a' => some '\x07'
  | 'f' => some '\x0C'
  | 't' => some '\t'
  | 'n' => some '\n'
  | 'r' => some '\r'
  | 'v' => some '\x0B'
  | _ => none

def simpleAssertion? : Char → Option Assertion
  | 'A' => some .textStart
  | 'z' => some .textEnd
  | 'B' => some .notWordBoundary
  | '<' => some .wordStart
  | '>' => some .wordEnd
  | _ => none

def letterClass? : Char → Option ClassSet
  | 'd' => some (.letter false .digit)
  | 's' => some (.letter false .space)
  | 'w' => some (.letter false .word)
  | 'D' => some (.letter true .digit)
  | 'S' => some (.letter true .space)
  | 'W' => some (.letter true .word)
  | _ => none

def readEscape (verbose : Bool) : List Char → Option (Tree × List Char)
  | [] => none
  | 'x' :: cs => (readCodePoint verbose 2 cs).map fun (l, rest) => (.literal l, rest)
  | 'u' :: cs => (readCodePoint verbose 4 cs).map fun (l, rest) => (.literal l, rest)
  | 'U' :: cs => (readCodePoint verbose 8 cs).map fun (l, rest) => (.literal l, rest)
  | 'p' :: cs => (readProperty verbose false cs).map fun (s, rest) => (.class s, rest)
  | 'P' :: cs => (readProperty verbose true cs).map fun (s, rest) => (.class s, rest)
  | 'b' :: cs => (readWordBoundary verbose cs).map fun (a, rest) => (.assertion a, rest)
  | c :: cs =>
    if isEscapable c then some (.literal ⟨c, false⟩, cs)
    else match letterClass? c, controlChar? c, simpleAssertion? c with
      | some s, _, _ => some (.class s, cs)
      | none, some control, _ => some (.literal ⟨control, false⟩, cs)
      | none, none, some a => some (.assertion a, cs)
      | none, none, none => none

end Patchwork.Regex
