namespace Patchwork.Unicode

/-- The characters `first`, `first + step`, …, `last` fold to `target`, `target + step`, …. -/
structure FoldRun where
  first : Nat
  last : Nat
  step : Nat
  target : Nat

namespace FoldRun

def image? (r : FoldRun) (n : Nat) : Option Nat :=
  if r.first ≤ n && n ≤ r.last && (n - r.first) % r.step = 0 then
    some (n - r.first + r.target)
  else none

def preimage? (r : FoldRun) (t : Nat) : Option Nat :=
  if r.target ≤ t && t - r.target ≤ r.last - r.first && (t - r.target) % r.step = 0 then
    some (t - r.target + r.first)
  else none

end FoldRun

end Patchwork.Unicode
