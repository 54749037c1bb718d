import Patchwork.Unicode.CharSet

namespace Patchwork.Regex

open Unicode (CharSet)

/-- What can be asked of a place between two characters. Words are those of Unicode or of ASCII. -/
inductive Look where
  | textStart
  | textEnd
  | lineStart (crlf : Bool)
  | lineEnd (crlf : Bool)
  | wordBoundary (unicode : Bool)
  | notWordBoundary (unicode : Bool)
  | wordStart (unicode : Bool)
  | wordEnd (unicode : Bool)
  | wordStartHalf (unicode : Bool)
  | wordEndHalf (unicode : Bool)
  deriving DecidableEq

inductive Form where
  | empty
  | chars (s : CharSet)
  | look (l : Look)
  | capture (index : Nat) (f : Form)
  | seq (f g : Form)
  | alt (f g : Form)
  | repeat (min : Nat) (max : Option Nat) (greedy : Bool) (f : Form)

namespace Form

def consumes : Form → Bool
  | empty => false
  | chars _ => true
  | look _ => false
  | capture _ f => f.consumes
  | seq f g => f.consumes || g.consumes
  | alt f g => f.consumes && g.consumes
  | .repeat min _ _ f => 0 < min && f.consumes

def takesNothing : Form → Bool
  | empty => true
  | chars _ => false
  | look _ => true
  | capture _ f => f.takesNothing
  | seq f g => f.takesNothing && g.takesNothing
  | alt f g => f.takesNothing && g.takesNothing
  | .repeat _ max _ f => max.isSome && f.takesNothing

/-- A repetition. What takes no character is repeated once at most; none at all is the empty form,
and exactly once is the form itself. -/
def repeated (min : Nat) (max : Option Nat) (greedy : Bool) (f : Form) : Form :=
  let (min, max) :=
    if f.takesNothing then (Nat.min min 1, some (Nat.min (max.getD 1) 1)) else (min, max)
  match min, max with
  | 0, some 0 => empty
  | 1, some 1 => f
  | min, max => .repeat min max greedy f

def lastGroup : Form → Nat
  | capture index f => max index f.lastGroup
  | seq f g => max f.lastGroup g.lastGroup
  | alt f g => max f.lastGroup g.lastGroup
  | .repeat _ _ _ f => f.lastGroup
  | _ => 0

end Form

end Patchwork.Regex
