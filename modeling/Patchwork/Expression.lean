import Patchwork.Flags
import Patchwork.Group.Anchors
import Patchwork.Group.Names
import Patchwork.Regex

namespace Patchwork

structure Expression where
  serial : Nat
  source : String
  deriving DecidableEq

/-- What compiling an expression yields: a flat pattern, and the tables by which a match of it is
taken apart again. -/
structure CompiledExpression where
  source : String
  /-- The directive that switches modes on ahead of the body. -/
  directive : String
  body : String
  regex : Regex
  /-- The same pattern, held to the start of the text. -/
  anchored : Regex
  /-- The capture groups and the whole match. -/
  groupCount : Nat
  /-- The length of the longest chain of references. -/
  height : Nat
  names : GroupNames
  anchors : Anchors
  /-- The variants that stand for each identifier, in the order of first reference. -/
  blocks : List (String × List CompiledExpression)

namespace CompiledExpression

def pattern (c : CompiledExpression) : String := c.directive ++ c.body

/-- Compiled forms of one source count as the same. -/
def sameSource (c d : CompiledExpression) : Bool := c.source = d.source

/-- The variants that stand for an identifier, in the order of their alternatives. -/
def variants? (c : CompiledExpression) (id : String) : Option (List CompiledExpression) :=
  (c.blocks.find? fun b => b.1 = id).map Prod.snd

theorem sizeOf_lt_of_variants? {c : CompiledExpression} {id : String}
    {cs : List CompiledExpression} (h : c.variants? id = some cs) : sizeOf cs < sizeOf c := by
  obtain ⟨b, hb, rfl⟩ := Option.map_eq_some_iff.mp h
  have hmem := List.sizeOf_lt_of_mem (List.mem_of_find?_eq_some hb)
  obtain ⟨i, cs⟩ := b
  obtain ⟨⟩ := c
  simp only [CompiledExpression.mk.sizeOf_spec, Prod.mk.sizeOf_spec] at *
  omega

end CompiledExpression

end Patchwork
