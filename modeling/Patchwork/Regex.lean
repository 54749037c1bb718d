import Patchwork.Regex.Modes
import Patchwork.Regex.Parse
import Patchwork.Regex.Search

namespace Patchwork

structure Regex where
  pattern : String
  machine : Regex.Machine
  /-- The capture groups and the whole match. -/
  groupCount : Nat

namespace Regex

def nestLimit : Nat := 250

def Form.text? : Form → Option (List Nat)
  | empty => some []
  | chars s => s.single?.map fun c => [c]
  | seq f g => do return (← f.text?) ++ (← g.text?)
  | _ => none

def Form.texts? : Form → Option (List (List Nat))
  | alt f g => do return (← f.texts?) ++ (← g.texts?)
  | seq empty f => f.texts?
  | f => f.text?.map fun text => [text]

/-- Puts a text to those that begin with the same character. -/
def insertBranch (c : Nat) (text : List Nat) : List (Nat × List (List Nat)) → List (Nat × List (List Nat))
  | [] => [(c, [text])]
  | (d, texts) :: rest =>
    if c = d then (d, text :: texts) :: rest else (d, texts) :: insertBranch c text rest

def branches : List (List Nat) → List (Nat × List (List Nat))
  | [] => []
  | [] :: texts => branches texts
  | (c :: text) :: texts => insertBranch c text (branches texts)

/-- The room of a state with so many transitions: the choice that leads to it takes 36, and the state
takes more if there are several. -/
def stateRoom : Nat → Nat
  | 0 => 0
  | 1 => 68
  | n => 68 + 8 * n

/-- The room of an automaton for texts that share their beginnings: a state for every beginning with which
some text goes on. -/
def trieRoom : Nat → List (List Nat) → Nat
  | 0, _ => 0
  | depth + 1, texts =>
    let next := branches texts
    next.foldl (fun room b => room + trieRoom depth b.2) (stateRoom next.length)

/-- The room of the greater of two automata for the texts. The one that runs backwards shares their endings. -/
def textsRoom (texts : List (List Nat)) : Nat :=
  let depth := (texts.map List.length).foldl max 0
  max (trieRoom depth texts) (trieRoom depth (texts.map List.reverse))

/-- How much room a form takes once its repetitions are written out: about as many bytes as the
states of a matching automaton would. Alternatives that are texts share what they have in common. -/
def Form.room : Form → Nat
  | empty => 32
  | chars s => 64 + s.room
  | look _ => 32
  | capture _ f => f.room + 64
  | seq f g => f.room + g.room
  | alt f g =>
    match (alt f g).texts? with
    | some texts => textsRoom texts + 40
    | none => f.room + g.room + 40
  | .repeat min max _ f => (max.getD (min + 1)) * (f.room + 40) + 64

def roomLimit : Nat := 0xA00000

/-- The form of a pattern, if the text is a pattern, not nested too deep, and means something under
its modes. -/
def form? (pattern : List Char) : Option Form := do
  let tree ← Tree.parse? pattern
  if tree.depth > nestLimit then none
  let (form, _) ← tree.resolve? .initial
  if form.room > roomLimit then none
  return form

def compile? (pattern : String) : Option Regex := do
  let form ← form? pattern.toList
  return ⟨pattern, (Form.capture 0 form).machine, form.lastGroup + 1⟩

def groupSpan (groups : List (Nat × Span)) (index : Nat) : Option Span :=
  (groups.find? fun g => g.1 = index).map Prod.snd

/-- The spans of all groups of an attempt that has ended, the whole match first. -/
def spans (r : Regex) (t : Task) : List (Option Span) :=
  (List.range r.groupCount).map (groupSpan t.groups)

def searchFrom (r : Regex) (c : Cursor) : Option Task :=
  r.machine.runFrom c.previous c.offset c.rest

def find? (r : Regex) (text : String) (position : Nat) : Option (List (Option Span)) := do
  let c ← Cursor.at? text position
  return r.spans (← r.searchFrom c)

def isMatch (r : Regex) (text : String) : Bool := (r.searchFrom (.start text)).isSome

/-- The next match from a place. One that takes nothing and lies where the last match ended does not
count; the search for the next then begins one character later. -/
def nextFrom (r : Regex) (lastEnd : Option Nat) (c : Cursor) : Option Task := do
  let t ← r.searchFrom c
  match groupSpan t.groups 0 with
  | some s =>
    if s.isEmpty && lastEnd = some s.stop then do
      let (_, c) ← t.cursor.advance?
      r.searchFrom c
    else return t
  | none => return t

def allFrom (r : Regex) : Nat → Option Nat → Cursor → List (List (Option Span))
  | 0, _, _ => []
  | fuel + 1, lastEnd, c =>
    match r.nextFrom lastEnd c with
    | none => []
    | some t => r.spans t :: r.allFrom fuel (some t.cursor.offset) t.cursor

/-- The spans of all matches. There are at most as many as places, since each ends later than the one
before it. -/
def findAll (r : Regex) (text : String) : List (List (Option Span)) :=
  r.allFrom (text.toList.length + 1) none (.start text)

end Regex

end Patchwork
