namespace Patchwork.Unicode

/-- Closed ranges of code points, disjoint and in ascending order. -/
abbrev RangeSet := List (Nat × Nat)

def RangeSet.contains : RangeSet → Nat → Bool
  | [], _ => false
  | (first, last) :: rest, n =>
    if n < first then false else if n ≤ last then true else RangeSet.contains rest n

@[simp]
theorem RangeSet.contains_nil (n : Nat) : RangeSet.contains [] n = false := rfl

theorem RangeSet.contains_singleton (first last n : Nat) :
    RangeSet.contains [(first, last)] n = (first ≤ n && n ≤ last) := by
  simp only [RangeSet.contains]
  split
  · simp; omega
  · split <;> simp <;> omega

end Patchwork.Unicode
