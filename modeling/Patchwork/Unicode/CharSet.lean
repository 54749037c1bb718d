import Patchwork.Unicode.Character
import Patchwork.Unicode.Folding

namespace Patchwork.Unicode

inductive CharSet where
  | tables (ranges : List RangeSet)
  | folded (s : CharSet)
  | asciiFolded (s : CharSet)
  | compl (s : CharSet)
  | union (s t : CharSet)
  | inter (s t : CharSet)

namespace CharSet

/-- An ASCII letter in both cases; any other character by itself. -/
def asciiOrbit (c : Char) : List Char := [c.toLower, c.toUpper]

def contains : CharSet → Char → Bool
  | tables ranges, c => inAny ranges c
  | folded s, c => s.contains c || (orbit c).any s.contains
  | asciiFolded s, c => s.contains c || (asciiOrbit c).any s.contains
  | compl s, c => !s.contains c
  | union s t, c => s.contains c || t.contains c
  | inter s t, c => s.contains c && t.contains c

def empty : CharSet := tables []

def all : CharSet := compl empty

def range (first last : Char) : CharSet := tables [[(first.toNat, last.toNat)]]

def single (c : Char) : CharSet := range c c

def ofList (cs : List Char) : CharSet := tables (cs.map fun c => [(c.toNat, c.toNat)])

def diff (s t : CharSet) : CharSet := inter s (compl t)

def symmDiff (s t : CharSet) : CharSet := union (diff s t) (diff t s)

def single? : CharSet → Option Nat
  | tables [[(first, last)]] => if first = last then some first else none
  | _ => none

/-- The room that a range takes in an automaton over bytes: one transition for ASCII, and more for
longer encodings, which share their states with each other. -/
def rangeRoom (range : Nat × Nat) : Nat := if range.2 < 128 then 8 else 20

def allRoom : Nat := 400

def room : CharSet → Nat
  | tables ranges => ranges.flatten.foldl (fun n r => n + rangeRoom r) 0
  | folded s | asciiFolded s => s.room
  | compl s => s.room + allRoom
  | union s t | inter s t => s.room + t.room

@[simp]
theorem contains_compl (s : CharSet) (c : Char) : (compl s).contains c = !s.contains c := rfl

@[simp]
theorem contains_union (s t : CharSet) (c : Char) :
    (union s t).contains c = (s.contains c || t.contains c) := rfl

@[simp]
theorem contains_inter (s t : CharSet) (c : Char) :
    (inter s t).contains c = (s.contains c && t.contains c) := rfl

@[simp]
theorem contains_empty (c : Char) : empty.contains c = false := rfl

@[simp]
theorem contains_all (c : Char) : all.contains c = true := rfl

theorem contains_single (a c : Char) : (single a).contains c = decide (c = a) := by
  have h : (c.toNat = a.toNat) ↔ c = a := by
    constructor
    · intro e; exact Char.toNat_inj.mp e
    · intro e; rw [e]
  simp only [single, range, contains, inAny, List.any_cons, List.any_nil, Bool.or_false,
    RangeSet.contains_singleton]
  by_cases e : c = a
  · simp [e]
  · have : ¬ c.toNat = a.toNat := fun x => e (h.mp x)
    simp [e]; omega

end CharSet

end Patchwork.Unicode
