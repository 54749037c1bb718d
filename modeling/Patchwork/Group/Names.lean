import Patchwork.Group.Map

namespace Patchwork

abbrev GroupNames := GroupMap String

namespace GroupNames

def indicesOf (names : GroupNames) (name : String) : List Nat :=
  (names.toList.filter fun e => e.2 = name).map Prod.fst

def indexOf? (names : GroupNames) (name : String) : Option Nat := (names.indicesOf name).head?

def hasName (names : GroupNames) (name : String) : Bool := (names.indexOf? name).isSome

/-- Takes over the names of a block whose group `k` is group `offset + k` here. -/
def absorb (names block : GroupNames) (offset : Nat) : GroupNames :=
  block.toList.foldl (fun acc e => acc.insert (e.1 + offset) e.2) names

end GroupNames

end Patchwork
