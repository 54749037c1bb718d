import Patchwork.Unicode.Folding.Table

namespace Patchwork.Unicode

def foldCode (n : Nat) : Nat := (foldings.findSome? fun run => run.image? n).getD n

/-- A character together with all characters that have the same simple case folding. -/
def orbit (c : Char) : List Char :=
  let folded := foldCode c.toNat
  Char.ofNat folded :: (foldings.filterMap fun run => run.preimage? folded).map Char.ofNat

end Patchwork.Unicode
