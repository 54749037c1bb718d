import Patchwork.Match

namespace Patchwork

inductive Fault where
  | noGroup (i : Nat)
  | noText (s : Span)
  deriving DecidableEq

abbrev Query := Except Fault

namespace Match

def groupAt (m : Match) (i : Nat) : Query (Option Span) :=
  match m.spans[i]? with
  | some span => .ok span
  | none => .error (.noGroup i)

def textAt (m : Match) (s : Span) : Query String :=
  if Text.covers m.text s then .ok (Text.slice m.text s) else .error (.noText s)

def querySpan (m : Match) (key : GroupKey) : Query (Option Span) :=
  match m.index? key with
  | some i => m.groupAt i
  | none => .ok none

def queryText (m : Match) (key : GroupKey) : Query (Option String) := do
  (← m.querySpan key).mapM m.textAt

def queryStart (m : Match) (key : GroupKey) : Query (Option Nat) :=
  return (← m.querySpan key).map (·.start)

def queryStop (m : Match) (key : GroupKey) : Query (Option Nat) :=
  return (← m.querySpan key).map (·.stop)

def queryMatched (m : Match) : Query String := return (← m.queryText (.index 0)).getD ""

def queryRange (m : Match) : Query Span := return (← m.querySpan (.index 0)).getD default

def queryValues (m : Match) : Query (List (Option String)) :=
  m.spans.mapM fun span => span.mapM m.textAt

def queryNamed (m : Match) : Query (List (String × String)) :=
  m.expression.names.toList.foldlM (fun acc e => do
    if acc.any (·.1 = e.2) then return acc
    match ← m.queryText (.index e.1) with
    | some value => return acc ++ [(e.2, value)]
    | none => return acc) []

def queryGroups (m : Match) : Query (List (GroupKey × String)) := do
  let values ← m.queryValues
  let named ← m.queryNamed
  return (values.zipIdx.filterMap fun v => v.1.map fun value => (GroupKey.index v.2, value)) ++
    named.map fun g => (.name g.1, g.2)

end Match

end Patchwork
