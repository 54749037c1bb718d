import Patchwork.Unicode.Character

namespace Patchwork.Regex

def skipBlanks : (comment : Bool) → List Char → List Char
  | _, [] => []
  | true, c :: cs => skipBlanks (c ≠ '\n') cs
  | false, c :: cs =>
    if Unicode.isWhiteSpace c then skipBlanks false cs
    else if c = '#' then skipBlanks true cs
    else c :: cs

def afterBlanks (verbose : Bool) (cs : List Char) : List Char :=
  if verbose then skipBlanks false cs else cs

/-- The next character but for white space and one number sign, by which a member of a class tells
whether a hyphen after it makes a range. -/
def peekPastBlanks : (comment : Bool) → List Char → Option Char
  | _, [] => none
  | comment, c :: cs =>
    if Unicode.isWhiteSpace c then peekPastBlanks comment cs
    else if !comment && c = '#' then peekPastBlanks true cs
    else some c

def peek (verbose : Bool) (cs : List Char) : Option Char :=
  if verbose then peekPastBlanks false cs else cs.head?

theorem skipBlanks_length (comment : Bool) (cs : List Char) :
    (skipBlanks comment cs).length ≤ cs.length := by
  fun_induction skipBlanks comment cs <;> simp_all <;> omega

theorem afterBlanks_length (verbose : Bool) (cs : List Char) :
    (afterBlanks verbose cs).length ≤ cs.length := by
  unfold afterBlanks
  split
  · exact skipBlanks_length false cs
  · exact Nat.le_refl _

end Patchwork.Regex
