import Patchwork.Group.Map

namespace Patchwork

/-- The reference that a block stands for: an identifier, and how many references to it come
earlier. -/
structure Anchor where
  id : String
  occurrence : Nat
  deriving DecidableEq

abbrev Anchors := GroupMap Anchor

namespace Anchors

def occurrences (anchors : Anchors) (id : String) : Nat :=
  anchors.values.countP fun a => a.id = id

/-- Records that a block for `id` begins at group `index`, and gives the occurrence that the
reference is counted as. -/
def register (anchors : Anchors) (index : Nat) (id : String) : Nat × Anchors :=
  let occurrence := anchors.occurrences id
  (occurrence, anchors.insert index ⟨id, occurrence⟩)

def find? (anchors : Anchors) (id : String) (occurrence : Nat) : Option Nat :=
  (anchors.toList.find? fun e => e.2 = ⟨id, occurrence⟩).map Prod.fst

/-- The identifiers referred to, each once, in the order of their first blocks. -/
def ids (anchors : Anchors) : List String :=
  anchors.values.foldl (fun seen a => if a.id ∈ seen then seen else seen ++ [a.id]) []

end Anchors

end Patchwork
