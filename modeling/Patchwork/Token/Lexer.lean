import Patchwork.Group.Name
import Patchwork.Token

namespace Patchwork.Token

def isStructural (c : Char) : Bool := c = '\\' || c = '[' || c = '(' || c = '$'

def isIdentifierPart (c : Char) : Bool := c.isAlphanum || c = '_'

/-- Splits off the longest identifier or name: a first character of one kind, then others. -/
def splitWord (start part : Char → Bool) : List Char → Option (List Char × List Char)
  | [] => none
  | c :: cs => if start c then some (c :: cs.takeWhile part, cs.dropWhile part) else none

def splitIdentifier : List Char → Option (List Char × List Char) :=
  splitWord Char.isAlpha isIdentifierPart

def splitName : List Char → Option (List Char × List Char) :=
  splitWord GroupName.isStart GroupName.isPart

/-- Splits a class off after its opening bracket and first members, with `depth` brackets open
inside it. -/
def splitClass : Nat → List Char → List Char × List Char
  | _, [] => ([], [])
  | _, ['\\'] => (['\\'], [])
  | depth, '\\' :: c :: cs =>
    let (inside, rest) := splitClass depth cs
    ('\\' :: c :: inside, rest)
  | depth, '[' :: cs =>
    let (inside, rest) := splitClass (depth + 1) cs
    ('[' :: inside, rest)
  | 0, ']' :: cs => ([']'], cs)
  | depth + 1, ']' :: cs =>
    let (inside, rest) := splitClass depth cs
    (']' :: inside, rest)
  | depth, c :: cs =>
    let (inside, rest) := splitClass depth cs
    (c :: inside, rest)

/-- A caret and a bracket at the start of a class do not close it. -/
def splitClassHead : List Char → List Char × List Char
  | '^' :: ']' :: cs => (['^', ']'], cs)
  | '^' :: cs => (['^'], cs)
  | ']' :: cs => ([']'], cs)
  | cs => ([], cs)

def readClass (cs : List Char) : Token × List Char :=
  let (head, rest) := splitClassHead cs
  let (inside, rest) := splitClass 0 rest
  (.charClass (String.ofList ('[' :: head ++ inside)), rest)

def readEscape : List Char → Token × List Char
  | [] => (.escape "\\", [])
  | c :: cs => (.escape (String.ofList ['\\', c]), cs)

def readName? (style : NameStyle) (cs : List Char) : Option (Token × List Char) :=
  match splitName cs with
  | some (name, '>' :: rest) => some (.namedOpen style (String.ofList name), rest)
  | _ => none

def readGroup : List Char → Token × List Char
  | '?' :: '<' :: cs => (readName? .plain cs).getD (.specialOpen, '<' :: cs)
  | '?' :: 'P' :: '<' :: cs => (readName? .withP cs).getD (.specialOpen, 'P' :: '<' :: cs)
  | '?' :: cs => (.specialOpen, cs)
  | cs => (.groupOpen, cs)

/-- Reads on after a dollar sign, which is a token alone where no reference or call is complete. -/
def readDollar (cs : List Char) : Token × List Char :=
  match cs with
  | '{' :: inside =>
    match splitIdentifier inside with
    | some (id, '}' :: rest) => (.reference (String.ofList id), rest)
    | some (id, '(' :: more) =>
      match more.dropWhile (· ≠ ')') with
      | ')' :: '}' :: rest =>
        (.call (String.ofList id) (String.ofList (more.takeWhile (· ≠ ')'))), rest)
      | _ => (.text "$", cs)
    | _ => (.text "$", cs)
  | _ => (.text "$", cs)

def read (c : Char) (cs : List Char) : Token × List Char :=
  if c = '\\' then readEscape cs
  else if c = '[' then readClass cs
  else if c = '(' then readGroup cs
  else if c = '$' then readDollar cs
  else
    (.text (String.ofList (c :: cs.takeWhile (!isStructural ·))), cs.dropWhile (!isStructural ·))

theorem splitClass_length (depth : Nat) (cs : List Char) :
    (splitClass depth cs).2.length ≤ cs.length := by
  fun_induction splitClass depth cs <;> simp_all <;> omega

theorem splitClassHead_length (cs : List Char) : (splitClassHead cs).2.length ≤ cs.length := by
  fun_cases splitClassHead cs <;> simp
  omega

theorem dropWhile_length (p : Char → Bool) (cs : List Char) :
    (cs.dropWhile p).length ≤ cs.length := (List.dropWhile_sublist p).length_le

theorem splitWord_length {start part : Char → Bool} {cs word rest : List Char}
    (h : splitWord start part cs = some (word, rest)) : rest.length ≤ cs.length := by
  cases cs with
  | nil => simp [splitWord] at h
  | cons c cs =>
      simp only [splitWord] at h
      split at h
      · cases h
        exact Nat.le_succ_of_le (dropWhile_length part cs)
      · cases h

theorem readName?_length {style : NameStyle} {cs rest : List Char} {t : Token}
    (h : readName? style cs = some (t, rest)) : rest.length ≤ cs.length := by
  simp only [readName?] at h
  split at h
  · next name after e =>
      cases h
      exact Nat.le_of_succ_le (splitWord_length e)
  · cases h

theorem readGroup_length (cs : List Char) : (readGroup cs).2.length ≤ cs.length := by
  fun_cases readGroup cs with
  | case1 cs =>
      cases h : readName? .plain cs with
      | none => simp
      | some p => have := readName?_length h; simp; omega
  | case2 cs =>
      cases h : readName? .withP cs with
      | none => simp
      | some p => have := readName?_length h; simp; omega
  | case3 => simp
  | case4 => simp

theorem readDollar_length (cs : List Char) : (readDollar cs).2.length ≤ cs.length := by
  fun_cases readDollar cs with
  | case1 inside id rest e =>
      have := splitWord_length e
      simp at this ⊢
      omega
  | case2 inside id more e rest h =>
      have hw := splitWord_length e
      have hd := dropWhile_length (· ≠ ')') more
      rw [h] at hd
      simp at hw hd ⊢
      omega
  | case3 => simp
  | case4 => simp
  | case5 => simp

theorem read_length (c : Char) (cs : List Char) : (read c cs).2.length ≤ cs.length := by
  unfold read
  split
  · cases cs <;> simp [readEscape]
  split
  · exact Nat.le_trans (splitClass_length 0 _) (splitClassHead_length cs)
  split
  · exact readGroup_length cs
  split
  · exact readDollar_length cs
  · exact dropWhile_length _ cs

def lexList : List Char → List Token
  | [] => []
  | c :: cs => (read c cs).1 :: lexList (read c cs).2
termination_by cs => cs.length
decreasing_by exact Nat.lt_succ_of_le (read_length c cs)

def lex (source : String) : List Token := lexList source.toList

end Patchwork.Token
