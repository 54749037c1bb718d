import Patchwork.Group.Numbering

namespace Patchwork

/-- What begins at a character: a capture group, with the name that its opener gives, or a class. -/
inductive Mark where
  | opener (name : Option String)
  | charClass (s : String)
  deriving DecidableEq

abbrev Marked := Char × Option Mark

namespace Marked

def plain (cs : List Char) : List Marked := cs.map fun c => (c, none)

def opener (name : Option String) : Marked := ('(', some (.opener name))

def ofClass (s : String) : List Marked :=
  match s.toList with
  | [] => []
  | c :: cs => (c, some (.charClass s)) :: plain cs

def chars (ms : List Marked) : List Char := ms.map Prod.fst

def name? : Marked → Option (Option String)
  | (_, some (.opener name)) => some name
  | _ => none

def class? : Marked → Option String
  | (_, some (.charClass s)) => some s
  | _ => none

def names (ms : List Marked) : List (Option String) := ms.filterMap name?

def classes (ms : List Marked) : List String := ms.filterMap class?

@[simp]
theorem plain_nil : plain [] = [] := rfl

@[simp]
theorem plain_cons (c : Char) (cs : List Char) : plain (c :: cs) = (c, none) :: plain cs := rfl

@[simp]
theorem plain_append (xs ys : List Char) : plain (xs ++ ys) = plain xs ++ plain ys :=
  List.map_append

@[simp]
theorem chars_nil : chars [] = [] := rfl

@[simp]
theorem chars_cons (m : Marked) (ms : List Marked) : chars (m :: ms) = m.1 :: chars ms := rfl

@[simp]
theorem chars_append (xs ys : List Marked) : chars (xs ++ ys) = chars xs ++ chars ys :=
  List.map_append

@[simp]
theorem chars_plain (cs : List Char) : chars (plain cs) = cs := by
  simp [chars, plain, Function.comp_def]

@[simp]
theorem names_nil : names [] = [] := rfl

@[simp]
theorem names_cons_plain (c : Char) (ms : List Marked) : names ((c, none) :: ms) = names ms := rfl

@[simp]
theorem names_cons_opener (name : Option String) (ms : List Marked) :
    names (opener name :: ms) = name :: names ms := rfl

@[simp]
theorem names_append (xs ys : List Marked) : names (xs ++ ys) = names xs ++ names ys :=
  List.filterMap_append

@[simp]
theorem chars_ofClass (s : String) : chars (ofClass s) = s.toList := by
  unfold ofClass
  split <;> simp_all

@[simp]
theorem names_plain (cs : List Char) : names (plain cs) = [] := by
  induction cs with
  | nil => rfl
  | cons c cs ih => exact ih

@[simp]
theorem names_ofClass (s : String) : names (ofClass s) = [] := by
  unfold ofClass
  split
  · rfl
  · exact names_plain _

end Marked

namespace Token

open Marked

def chars (t : Token) : List Char := t.render.toList

def renders (ts : List Token) : List Char := ts.flatMap chars

@[simp]
theorem renders_nil : renders [] = [] := rfl

@[simp]
theorem renders_cons (t : Token) (ts : List Token) : renders (t :: ts) = t.chars ++ renders ts := rfl

theorem renders_append (xs ys : List Token) : renders (xs ++ ys) = renders xs ++ renders ys :=
  List.flatMap_append

def marked : Token → List Marked
  | .groupOpen => [opener none]
  | .namedOpen _ name => [opener (some name)]
  | .charClass s => ofClass s
  | t => plain t.chars

def marks (cs : List Char) : List Marked := (lexList cs).flatMap marked

theorem isStructural_cases {c : Char} (h : isStructural c = true) :
    c = '\\' ∨ c = '[' ∨ c = '(' ∨ c = '$' := by
  simpa [isStructural, or_assoc] using h

theorem mem_of_isStructural {c : Char} (h : isStructural c = true) : c ∈ ['\\', '[', '(', '$'] := by
  simpa using isStructural_cases h

theorem isStructural_of_test {p : Char → Bool} {c : Char} (h : p c = true)
    (hno : ['\\', '[', '(', '$'].all (!p ·) = true) : isStructural c = false := by
  cases hs : isStructural c with
  | false => rfl
  | true =>
      have hc := List.all_eq_true.1 hno c (mem_of_isStructural hs)
      simp [h] at hc

theorem isStructural_of_isDigit {c : Char} (h : c.isDigit = true) : isStructural c = false :=
  isStructural_of_test h (by decide)

/-- Text without backslashes, opening brackets and parentheses, and dollar signs. -/
def Ordinary (cs : List Char) : Prop := ∀ c ∈ cs, isStructural c = false

instance (cs : List Char) : Decidable (Ordinary cs) :=
  decidable_of_iff (cs.all (!isStructural ·) = true) (by simp [Ordinary])

theorem lexList_nil : lexList [] = [] := by rw [lexList]

theorem lexList_cons (c : Char) (cs : List Char) :
    lexList (c :: cs) = (read c cs).1 :: lexList (read c cs).2 := by rw [lexList]

@[simp]
theorem marks_nil : marks [] = [] := by rw [marks, lexList_nil, List.flatMap_nil]

theorem marks_cons (c : Char) (cs : List Char) :
    marks (c :: cs) = (read c cs).1.marked ++ marks (read c cs).2 := by
  rw [marks, lexList_cons, List.flatMap_cons, marks]

theorem marks_of_read {c : Char} {cs rest : List Char} {t : Token} (h : read c cs = (t, rest)) :
    marks (c :: cs) = t.marked ++ marks rest := by
  rw [marks_cons, h]

theorem read_ordinary {c : Char} (h : isStructural c = false) (cs : List Char) :
    read c cs = (.text (String.ofList (c :: cs.takeWhile (!isStructural ·))),
      cs.dropWhile (!isStructural ·)) := by
  simp only [isStructural, Bool.or_eq_false_iff, decide_eq_false_iff_not] at h
  simp only [read, h.1.1.1, h.1.1.2, h.1.2, h.2, if_false]

theorem marked_text (s : String) : (Token.text s).marked = plain s.toList := rfl

/-- Ordinary characters are read one by one as well as in a run. -/
theorem marks_ordinary {c : Char} (h : isStructural c = false) (cs : List Char) :
    marks (c :: cs) = (c, none) :: marks cs := by
  have htail : marks cs =
      plain (cs.takeWhile (!isStructural ·)) ++ marks (cs.dropWhile (!isStructural ·)) := by
    cases cs with
    | nil => simp
    | cons d ds =>
        cases hd : isStructural d with
        | true => simp [hd]
        | false =>
            rw [marks_of_read (read_ordinary hd ds), marked_text, String.toList_ofList]
            simp [hd]
  rw [marks_of_read (read_ordinary h cs), marked_text, String.toList_ofList, plain_cons,
    List.cons_append, ← htail]

theorem marks_text {s : List Char} (h : Ordinary s) (next : List Char) :
    marks (s ++ next) = plain s ++ marks next := by
  induction s with
  | nil => rfl
  | cons c cs ih =>
      obtain ⟨hc, hcs⟩ := List.forall_mem_cons.1 h
      rw [List.cons_append, marks_ordinary hc, ih hcs, plain_cons, List.cons_append]

theorem marks_escape (c : Char) (next : List Char) :
    marks ('\\' :: c :: next) = plain ['\\', c] ++ marks next := by
  have hread : read '\\' (c :: next) = (.escape (String.ofList ['\\', c]), next) := rfl
  rw [marks_of_read hread]
  simp [marked, chars, render]

theorem read_dollar {next : List Char} (h : next.head? ≠ some '{') :
    read '$' next = (.text "$", next) := by
  cases next with
  | nil => rfl
  | cons c cs =>
      have hc : c ≠ '{' := by simpa using h
      simp [read, readDollar, hc]

theorem marks_dollar {next : List Char} (h : next.head? ≠ some '{') :
    marks ('$' :: next) = ('$', none) :: marks next := by
  rw [marks_of_read (read_dollar h)]
  rfl

theorem read_open {next : List Char} (h : next.head? ≠ some '?') :
    read '(' next = (.groupOpen, next) := by
  cases next with
  | nil => rfl
  | cons c cs =>
      have hc : c ≠ '?' := by simpa using h
      simp [read, readGroup, hc]

theorem marks_open {next : List Char} (h : next.head? ≠ some '?') :
    marks ('(' :: next) = opener none :: marks next := by
  rw [marks_of_read (read_open h)]
  rfl

end Token

end Patchwork
