namespace Patchwork.Text

def numberBound : Nat := 0x10000000000000000

def digitsValue : List Char → Nat → Option Nat
  | [], value => some value
  | c :: cs, value =>
    if c.isDigit then digitsValue cs (10 * value + (c.toNat - '0'.toNat)) else none

def unsigned : List Char → List Char
  | '+' :: rest => rest
  | cs => cs

/-- A decimal number of 64 bits; a plus sign may stand ahead of it. -/
def parseNumber? (cs : List Char) : Option Nat :=
  if (unsigned cs).isEmpty then none else (digitsValue (unsigned cs) 0).filter (· < numberBound)

theorem lt_numberBound_of_parseNumber? {cs : List Char} {n : Nat}
    (h : parseNumber? cs = some n) : n < numberBound := by
  unfold parseNumber? at h
  split at h
  · contradiction
  · simpa using (Option.filter_eq_some_iff.mp h).2

end Patchwork.Text
