import Patchwork.Regex.Form

namespace Patchwork.Regex

open Unicode (CharSet)

inductive Program where
  | empty
  | chars (s : CharSet)
  | look (l : Look)
  | capture (index : Nat) (p : Program)
  | seq (p q : Program)
  /-- Tries `p` first, then `q`. -/
  | choice (label : Nat) (p q : Program)
  /-- Tries one more round of `p` first if greedy, and to go on if not. -/
  | loop (label : Nat) (greedy : Bool) (p : Program)

namespace Program

abbrev Labelled := Nat → Program × Nat

namespace Labelled

def seq (p q : Labelled) : Labelled := fun n =>
  let (a, n) := p n
  let (b, n) := q n
  (.seq a b, n)

def choice (p q : Labelled) : Labelled := fun n =>
  let (a, next) := p (n + 1)
  let (b, next) := q next
  (.choice n a b, next)

def empty : Labelled := fun n => (.empty, n)

def optional (greedy : Bool) (p : Labelled) : Labelled :=
  if greedy then choice p empty else choice empty p

def times (p : Labelled) : Nat → Labelled
  | 0 => empty
  | 1 => p
  | k + 2 => seq p (times p (k + 1))

/-- At most `k` rounds, each of which is tried only after the one before it. -/
def atMost (greedy : Bool) (p : Labelled) : Nat → Labelled
  | 0 => empty
  | k + 1 => optional greedy (seq p (atMost greedy p k))

def star (greedy : Bool) (p : Labelled) : Labelled := fun n =>
  let (a, next) := p (n + 1)
  (.loop n greedy a, next)

/-- One round or more; the first round and those of the loop are the same place in the program. -/
def plus (greedy : Bool) (p : Labelled) : Labelled := fun n =>
  let (a, next) := p (n + 1)
  (.seq a (.loop n greedy a), next)

/-- Any number of rounds. What may take no character is tried once ahead of the loop, so that the
order of preference is kept. -/
def anyNumber (greedy consumes : Bool) (p : Labelled) : Labelled :=
  if consumes then star greedy p else optional greedy (plus greedy p)

def repetition (min : Nat) (max : Option Nat) (greedy consumes : Bool) (p : Labelled) : Labelled :=
  match min, max with
  | 0, none => anyNumber greedy consumes p
  | 1, none => plus greedy p
  | k + 2, none => seq (times p (k + 1)) (plus greedy p)
  | min, some max =>
    if min = max then times p min
    else if min = 0 then atMost greedy p max
    else seq (times p min) (atMost greedy p (max - min))

end Labelled

structure Load where
  size : Nat
  /-- How many nodes can be waiting at once when the program is run. -/
  peak : Nat

def load : Program → Load
  | capture _ p =>
    let a := p.load
    ⟨a.size + 2, max (a.size + 2) (a.peak + 1)⟩
  | seq p q =>
    let a := p.load
    let b := q.load
    ⟨a.size + b.size + 1, max (a.size + b.size + 1) (max (a.peak + b.size) b.peak)⟩
  | choice _ p q =>
    let a := p.load
    let b := q.load
    ⟨a.size + b.size + 1, max (a.size + b.size + 1) (max a.peak b.peak)⟩
  | loop _ _ p =>
    let a := p.load
    ⟨a.size + 1, a.peak + a.size + 1⟩
  | _ => ⟨1, 1⟩

end Program

def Form.assemble : Form → Program.Labelled
  | empty => .empty
  | chars s => fun n => (.chars s, n)
  | look l => fun n => (.look l, n)
  | capture index f => fun n =>
    let (p, n) := f.assemble n
    (.capture index p, n)
  | seq f g => .seq f.assemble g.assemble
  | alt f g => .choice f.assemble g.assemble
  | .repeat min max greedy f => .repetition min max greedy f.consumes f.assemble

/-- A program with the number of its labels and the most nodes that can be waiting. -/
structure Machine where
  program : Program
  labels : Nat
  peak : Nat

def Form.machine (f : Form) : Machine :=
  let (program, labels) := f.assemble 0
  ⟨program, labels, program.load.peak⟩

end Patchwork.Regex
