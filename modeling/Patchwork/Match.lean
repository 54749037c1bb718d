import Patchwork.Expression

/-!
Matches, and how they are taken apart. A match knows the expression it is a match of; a sub-match is
a match of the variant that its block was spliced from, with the groups of that block.
-/

namespace Patchwork

inductive GroupKey where
  | index (i : Nat)
  | name (s : String)
  deriving DecidableEq

structure Match where
  text : String
  expression : CompiledExpression
  /-- The span of each group, the whole match first; a group that took no part has none. -/
  spans : List (Option Span)

namespace Match

def groupCount (m : Match) : Nat := m.spans.length

def spanAt? (m : Match) (i : Nat) : Option Span := m.spans[i]?.join

def participated (m : Match) (i : Nat) : Bool := (m.spanAt? i).isSome

/-- The number of the group of that name: the lowest that took part, or else the lowest. -/
def groupIndex? (m : Match) (name : String) : Option Nat :=
  let indices := m.expression.names.indicesOf name
  (indices.find? m.participated).or indices.head?

def groupName? (m : Match) (i : Nat) : Option String := m.expression.names.get? i

def index? (m : Match) : GroupKey → Option Nat
  | .index i => if i < m.spans.length then some i else none
  | .name s => m.groupIndex? s

def span? (m : Match) (key : GroupKey) : Option Span := (m.index? key).bind m.spanAt?

def get? (m : Match) (key : GroupKey) : Option String := (m.span? key).map (Text.slice m.text)

def start? (m : Match) (key : GroupKey) : Option Nat := (m.span? key).map (·.start)

def stop? (m : Match) (key : GroupKey) : Option Nat := (m.span? key).map (·.stop)

def matched (m : Match) : String := (m.get? (.index 0)).getD ""

def range (m : Match) : Span := (m.span? (.index 0)).getD default

def values (m : Match) : List (Option String) := m.spans.map fun s => s.map (Text.slice m.text)

/-- The named groups that took part, each name once, with the lowest of its groups. -/
def namedGroups (m : Match) : List (String × String) :=
  m.expression.names.toList.foldl (fun acc e =>
    if acc.any (·.1 = e.2) then acc
    else match m.get? (.index e.1) with
      | some value => acc ++ [(e.2, value)]
      | none => acc) []

/-- All groups that took part, by number and then by name. -/
def groups (m : Match) : List (GroupKey × String) :=
  ((List.range m.groupCount).filterMap fun i =>
    (m.get? (.index i)).map fun value => (GroupKey.index i, value)) ++
  m.namedGroups.map fun g => (.name g.1, g.2)

def subIds (m : Match) : List String := m.expression.anchors.ids

/-- The first variant whose own group took part, with the number of that group; the first variant
has its group at `slot`. -/
def pickVariant? (m : Match) (slot : Nat) : List CompiledExpression →
    Option (CompiledExpression × Nat)
  | [] => none
  | c :: cs => if m.participated slot then some (c, slot) else m.pickVariant? (slot + c.groupCount) cs

/-- The groups from `start` on, as many as the variant has, as a match of the variant. -/
def window? (m : Match) (c : CompiledExpression) (start : Nat) : Option Match :=
  if start + c.groupCount ≤ m.spans.length then
    some ⟨m.text, c, (m.spans.drop start).take c.groupCount⟩
  else none

/-- The block whose group is `anchor`, as a match of the variant that took part in it. A variant that
is the only one shares the block's group. -/
def block? (m : Match) (anchor : Nat) : List CompiledExpression → Option Match
  | [c] => m.window? c anchor
  | variants => (m.pickVariant? (anchor + 1) variants).bind fun pick => m.window? pick.1 pick.2

/-- The sub-match for one occurrence of an identifier, if its block took part. -/
def subMatch? (m : Match) (id : String) (occurrence : Nat) : Option Match :=
  match m.expression.anchors.find? id occurrence, m.expression.variants? id with
  | some anchor, some variants => if m.participated anchor then m.block? anchor variants else none
  | _, _ => none

theorem expression_of_window? {m s : Match} {c : CompiledExpression} {start : Nat}
    (h : m.window? c start = some s) : s.expression = c := by
  unfold window? at h
  split at h
  · obtain rfl := Option.some.inj h
    rfl
  · contradiction

theorem mem_of_pickVariant? {m : Match} {cs : List CompiledExpression} {c : CompiledExpression}
    {slot found : Nat} (h : m.pickVariant? slot cs = some (c, found)) : c ∈ cs := by
  induction cs generalizing slot with
  | nil => simp [pickVariant?] at h
  | cons d ds ih =>
      unfold pickVariant? at h
      split at h
      · obtain ⟨rfl, -⟩ := Prod.mk.inj (Option.some.inj h)
        exact List.mem_cons_self
      · exact List.mem_cons_of_mem _ (ih h)

theorem mem_of_block? {m s : Match} {anchor : Nat} {cs : List CompiledExpression}
    (h : m.block? anchor cs = some s) : s.expression ∈ cs := by
  unfold block? at h
  split at h
  · rw [expression_of_window? h]
    exact List.mem_singleton_self _
  · obtain ⟨⟨c, slot⟩, hpick, h⟩ := Option.bind_eq_some_iff.mp h
    rw [expression_of_window? h]
    exact mem_of_pickVariant? hpick

theorem mem_variants_of_subMatch? {m s : Match} {id : String} {k : Nat}
    (h : m.subMatch? id k = some s) :
    ∃ cs, m.expression.variants? id = some cs ∧ s.expression ∈ cs := by
  unfold subMatch? at h
  split at h
  · next anchor cs _ hcs =>
      split at h
      · exact ⟨cs, hcs, mem_of_block? h⟩
      · contradiction
  · contradiction

theorem sizeOf_lt_of_subMatch? {m s : Match} {id : String} {k : Nat}
    (h : m.subMatch? id k = some s) : sizeOf s.expression < sizeOf m.expression := by
  obtain ⟨cs, hcs, hs⟩ := mem_variants_of_subMatch? h
  exact Nat.lt_trans (List.sizeOf_lt_of_mem hs) (CompiledExpression.sizeOf_lt_of_variants? hcs)

end Match

namespace CompiledExpression

def matchOf (c : CompiledExpression) (text : String) (spans : List (Option Span)) : Match :=
  ⟨text, c, (List.range c.groupCount).map fun i => spans[i]?.join⟩

def isMatch (c : CompiledExpression) (text : String) : Bool := c.regex.isMatch text

/-- The first match at or after a position; what stands before it can still be looked at. -/
def findAt? (c : CompiledExpression) (text : String) (position : Nat) : Option Match :=
  (c.regex.find? text position).map (c.matchOf text)

def find? (c : CompiledExpression) (text : String) : Option Match := c.findAt? text 0

/-- The match at the very start of the text. -/
def lookingAt? (c : CompiledExpression) (text : String) : Option Match :=
  (c.anchored.find? text 0).map (c.matchOf text)

def findAll (c : CompiledExpression) (text : String) : List Match :=
  (c.regex.findAll text).map (c.matchOf text)

end CompiledExpression

end Patchwork
