import Patchwork.Expression
import Patchwork.Group.Numbering

namespace Patchwork

structure Draft where
  text : String
  height : Nat
  names : GroupNames
  anchors : Anchors
  blocks : List (String × List CompiledExpression)

namespace Draft

def empty : Draft := ⟨"", 0, .empty, .empty, []⟩

def append (d : Draft) (s : String) : Draft := { d with text := d.text ++ s }

def nextGroup (d : Draft) : Nat := countCapturing d.text + 1

/-- The text of a block: the one variant in a group, or a group of alternatives each in its own. -/
def blockText : List CompiledExpression → String
  | [c] => "(" ++ c.body ++ ")"
  | cs => "((" ++ String.intercalate ")|(" (cs.map (·.body)) ++ "))"

/-- Takes over the names of alternatives, the first of which has its whole match at group `slot`. -/
def absorbEach (names : GroupNames) (slot : Nat) : List CompiledExpression → GroupNames
  | [] => names
  | c :: cs => absorbEach (names.absorb c.names slot) (slot + c.groupCount) cs

def blockNames (names : GroupNames) (anchor : Nat) : List CompiledExpression → GroupNames
  | [c] => names.absorb c.names anchor
  | cs => absorbEach names (anchor + 1) cs

def addVariants (known more : List CompiledExpression) : List CompiledExpression :=
  more.foldl (fun acc c => if acc.any c.sameSource then acc else acc ++ [c]) known

def addBlock (id : String) (variants : List CompiledExpression) :
    List (String × List CompiledExpression) → List (String × List CompiledExpression)
  | [] => [(id, addVariants [] variants)]
  | (k, known) :: rest =>
    if k = id then (k, addVariants known variants) :: rest
    else (k, known) :: addBlock id variants rest

def splice (d : Draft) (id : String) (variants : List CompiledExpression) : Draft where
  text := d.text ++ blockText variants
  height := variants.foldl (fun h c => max h (c.height + 1)) d.height
  names := blockNames d.names d.nextGroup variants
  anchors := (d.anchors.register d.nextGroup id).2
  blocks := addBlock id variants d.blocks

end Draft

end Patchwork
