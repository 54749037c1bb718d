import Patchwork.Regex.Program
import Patchwork.Text.Bytes
import Std.Data.TreeSet

/-!
Searching a text. Alternatives are tried in order of preference, and the first that leads to the end
of the program decides the match. A choice that is met again at the same place of the text has failed
before, or waits for this very attempt to end, and is not tried again; so every search ends.
-/

namespace Patchwork.Regex

/-- A place in a text: the character before it, what follows, and its position in bytes. -/
structure Cursor where
  previous : Option Char
  rest : List Char
  offset : Nat

namespace Cursor

def start (text : String) : Cursor := ⟨none, text.toList, 0⟩

def advance? (c : Cursor) : Option (Char × Cursor) :=
  match c.rest with
  | [] => none
  | x :: rest => some (x, ⟨some x, rest, c.offset + x.utf8Size⟩)

def seek? (position : Nat) (previous : Option Char) (offset : Nat) : List Char → Option Cursor
  | [] => if position ≤ offset then some ⟨previous, [], offset⟩ else none
  | x :: rest =>
    if position ≤ offset then some ⟨previous, x :: rest, offset⟩
    else seek? position (some x) (offset + x.utf8Size) rest

def at? (text : String) (position : Nat) : Option Cursor := seek? position none 0 text.toList

end Cursor

def isAsciiWord (c : Char) : Bool := c.isAlphanum || c = '_'

def wordTest (unicode : Bool) (c : Option Char) : Bool :=
  match c with
  | some x => if unicode then Unicode.isWord x else isAsciiWord x
  | none => false

def Look.holds (l : Look) (c : Cursor) : Bool :=
  let before (unicode : Bool) := wordTest unicode c.previous
  let after (unicode : Bool) := wordTest unicode c.rest.head?
  match l with
  | textStart => c.previous.isNone
  | textEnd => c.rest.isEmpty
  | lineStart crlf =>
    c.previous.isNone || c.previous = some '\n' ||
      crlf && c.previous = some '\r' && c.rest.head? ≠ some '\n'
  | lineEnd crlf =>
    c.rest.isEmpty ||
      (if crlf then
        c.rest.head? = some '\r' || c.rest.head? = some '\n' && c.previous ≠ some '\r'
      else c.rest.head? = some '\n')
  | wordBoundary u => before u != after u
  | notWordBoundary u => before u == after u
  | wordStart u => !before u && after u
  | wordEnd u => before u && !after u
  | wordStartHalf u => !before u
  | wordEndHalf u => !after u

/-- What remains to be done: to run a program, or to close a group that was opened at `start`. -/
inductive Frame where
  | run (p : Program)
  | close (index start : Nat)

/-- An attempt: what remains of it, the place it has come to, and the groups it has closed, latest
first. -/
structure Task where
  frames : List Frame
  cursor : Cursor
  groups : List (Nat × Span)

inductive Move where
  | accept
  | go (next : Option Task)
  | choose (label : Nat) (first second : Task)

namespace Task

def next (t : Task) : Move :=
  match t.frames with
  | [] => .accept
  | .close index start :: k =>
    .go (some { t with frames := k, groups := (index, ⟨start, t.cursor.offset⟩) :: t.groups })
  | .run p :: k =>
    match p with
    | .empty => .go (some { t with frames := k })
    | .chars s =>
      match t.cursor.advance? with
      | some (c, cursor) => .go (if s.contains c then some { t with frames := k, cursor } else none)
      | none => .go none
    | .look l => .go (if l.holds t.cursor then some { t with frames := k } else none)
    | .capture index p =>
      .go (some { t with frames := .run p :: .close index t.cursor.offset :: k })
    | .seq p q => .go (some { t with frames := .run p :: .run q :: k })
    | .choice label p q =>
      .choose label { t with frames := .run p :: k } { t with frames := .run q :: k }
    | .loop label greedy p =>
      let again := { t with frames := .run p :: .run (.loop label greedy p) :: k }
      let leave := { t with frames := k }
      if greedy then .choose label again leave else .choose label leave again

end Task

abbrev Places := Std.TreeSet Nat

def explore (labels : Nat) : Nat → Places → List Task → Option Task
  | 0, _, _ => none
  | _ + 1, _, [] => none
  | fuel + 1, places, t :: waiting =>
    match t.next with
    | .accept => some t
    | .go none => explore labels fuel places waiting
    | .go (some next) => explore labels fuel places (next :: waiting)
    | .choose label first second =>
      let place := t.cursor.offset * labels + label
      if places.contains place then explore labels fuel places waiting
      else explore labels fuel (places.insert place) (first :: second :: waiting)

namespace Machine

/-- Enough steps for a text of that many bytes: every choice is made once at each place, and between
choices no more nodes are met than can be waiting. -/
def stepBound (m : Machine) (bytes : Nat) : Nat :=
  (2 * m.labels * (bytes + 1) + 1) * (m.peak + 1) + 1

def runAt (m : Machine) (c : Cursor) : Option Task :=
  explore m.labels (m.stepBound (Text.byteLength c.rest)) .empty [⟨[.run m.program], c, []⟩]

def runFrom (m : Machine) (previous : Option Char) (offset : Nat) : List Char → Option Task
  | [] => m.runAt ⟨previous, [], offset⟩
  | x :: rest =>
    (m.runAt ⟨previous, x :: rest, offset⟩).or
      (m.runFrom (some x) (offset + x.utf8Size) rest)

end Machine

end Patchwork.Regex
