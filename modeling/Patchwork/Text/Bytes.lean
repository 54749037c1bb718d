namespace Patchwork

/-- A stretch of text from byte `start` up to, not including, byte `stop`. -/
structure Span where
  start : Nat
  stop : Nat
  deriving DecidableEq, Inhabited

namespace Span

def length (s : Span) : Nat := s.stop - s.start

def isEmpty (s : Span) : Bool := s.start = s.stop

end Span

namespace Text

def byteLength : List Char → Nat
  | [] => 0
  | c :: cs => c.utf8Size + byteLength cs

/-- What is left after the first `n` bytes; a character that they cut goes with them. -/
def dropBytes : Nat → List Char → List Char
  | 0, cs => cs
  | _, [] => []
  | n + 1, c :: cs => dropBytes (n + 1 - c.utf8Size) cs

/-- The characters that begin within the first `n` bytes. -/
def takeBytes : Nat → List Char → List Char
  | 0, _ => []
  | _, [] => []
  | n + 1, c :: cs => c :: takeBytes (n + 1 - c.utf8Size) cs

def slice (text : String) (s : Span) : String :=
  String.ofList (takeBytes s.length (dropBytes s.start text.toList))

def isBoundary : Nat → List Char → Bool
  | 0, _ => true
  | _, [] => false
  | n + 1, c :: cs => c.utf8Size ≤ n + 1 && isBoundary (n + 1 - c.utf8Size) cs

/-- Whether a span names a stretch of the text, which it does not if it ends before it begins or cuts
a character. -/
def covers (text : String) (s : Span) : Bool :=
  s.start ≤ s.stop && isBoundary s.start text.toList && isBoundary s.stop text.toList

@[simp]
theorem byteLength_nil : byteLength [] = 0 := rfl

@[simp]
theorem byteLength_cons (c : Char) (cs : List Char) :
    byteLength (c :: cs) = c.utf8Size + byteLength cs := rfl

@[simp]
theorem byteLength_append (xs ys : List Char) :
    byteLength (xs ++ ys) = byteLength xs + byteLength ys := by
  induction xs with
  | nil => simp
  | cons c cs ih => simp [ih, Nat.add_assoc]

theorem exists_utf8Size_add (c : Char) (n : Nat) : ∃ m, c.utf8Size + n = m + 1 ∧ m + 1 - c.utf8Size = n := by
  have hc := c.utf8Size_pos
  exact ⟨c.utf8Size + n - 1, by omega, by omega⟩

theorem dropBytes_append (xs ys : List Char) : dropBytes (byteLength xs) (xs ++ ys) = ys := by
  induction xs with
  | nil => simp [dropBytes]
  | cons c cs ih =>
      obtain ⟨n, hn, hsub⟩ := exists_utf8Size_add c (byteLength cs)
      rw [byteLength_cons, hn, List.cons_append, dropBytes, hsub, ih]

theorem takeBytes_append (xs ys : List Char) : takeBytes (byteLength xs) (xs ++ ys) = xs := by
  induction xs with
  | nil => simp [takeBytes]
  | cons c cs ih =>
      obtain ⟨n, hn, hsub⟩ := exists_utf8Size_add c (byteLength cs)
      rw [byteLength_cons, hn, List.cons_append, takeBytes, hsub, ih]

theorem isBoundary_append (xs ys : List Char) : isBoundary (byteLength xs) (xs ++ ys) := by
  induction xs with
  | nil => cases ys <;> rfl
  | cons c cs ih =>
      obtain ⟨n, hn, hsub⟩ := exists_utf8Size_add c (byteLength cs)
      have hle : c.utf8Size ≤ n + 1 := hn ▸ Nat.le_add_right _ _
      rw [byteLength_cons, hn, List.cons_append, isBoundary, hsub, ih, Bool.and_true]
      exact decide_eq_true hle

end Text

end Patchwork
