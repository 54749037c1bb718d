import Patchwork.Proofs.Token.Marks

namespace Patchwork.Token

def isWord (start part : Char → Bool) : List Char → Bool
  | [] => false
  | c :: cs => start c && cs.all part

section Word

variable {start part : Char → Bool} {cs word rest : List Char}

theorem splitWord_append (h : splitWord start part cs = some (word, rest)) : word ++ rest = cs := by
  cases cs with
  | nil => cases h
  | cons c cs =>
      simp only [splitWord] at h
      split at h
      · cases h
        rw [List.cons_append, List.takeWhile_append_dropWhile]
      · cases h

theorem isWord_of_splitWord (h : splitWord start part cs = some (word, rest)) :
    isWord start part word := by
  cases cs with
  | nil => cases h
  | cons c cs =>
      simp only [splitWord] at h
      split at h
      · next hc =>
          cases h
          simp only [isWord, hc, Bool.true_and]
          exact List.all_takeWhile
      · cases h

theorem splitWord_of_isWord (h : isWord start part word) {stop : Char} (hstop : part stop = false)
    (next : List Char) : splitWord start part (word ++ stop :: next) = some (word, stop :: next) := by
  cases word with
  | nil => cases h
  | cons c cs =>
      obtain ⟨hc, hcs⟩ := Bool.and_eq_true_iff.1 h
      have hall : ∀ d ∈ cs, part d = true := List.all_eq_true.1 hcs
      rw [List.cons_append, splitWord, if_pos hc, List.takeWhile_append_of_pos hall,
        List.dropWhile_append_of_pos hall]
      simp [hstop]

theorem mem_of_isWord (h : isWord start part word) : ∀ c ∈ word, start c ∨ part c := by
  cases word with
  | nil => cases h
  | cons c cs =>
      obtain ⟨hc, hcs⟩ := Bool.and_eq_true_iff.1 h
      exact List.forall_mem_cons.2 ⟨.inl hc, fun d hd => .inr (List.all_eq_true.1 hcs d hd)⟩

theorem splitWord_of_append (h : splitWord start part cs = some (word, rest)) {stop : Char}
    (hstop : part stop = false) (next : List Char) :
    splitWord start part (word ++ stop :: next) = some (word, stop :: next) :=
  splitWord_of_isWord (isWord_of_splitWord h) hstop next

theorem mem_of_splitWord (h : splitWord start part cs = some (word, rest)) :
    ∀ c ∈ word, start c ∨ part c :=
  mem_of_isWord (isWord_of_splitWord h)

end Word

theorem splitClass_append (depth : Nat) (cs : List Char) :
    (splitClass depth cs).1 ++ (splitClass depth cs).2 = cs := by
  fun_induction splitClass depth cs <;> simp_all

theorem splitClassHead_append (cs : List Char) :
    (splitClassHead cs).1 ++ (splitClassHead cs).2 = cs := by
  fun_cases splitClassHead cs <;> rfl

theorem chars_readClass (cs : List Char) :
    (readClass cs).1.chars ++ (readClass cs).2 = '[' :: cs := by
  simp only [readClass, chars, render, String.toList_ofList, List.cons_append, List.append_assoc,
    splitClass_append, splitClassHead_append]

theorem chars_readEscape (cs : List Char) :
    (readEscape cs).1.chars ++ (readEscape cs).2 = '\\' :: cs := by
  cases cs <;> simp [readEscape, chars, render]

theorem readName?_eq_some {style : NameStyle} {cs rest : List Char} {t : Token}
    (h : readName? style cs = some (t, rest)) :
    ∃ name, t = .namedOpen style (String.ofList name) ∧ cs = name ++ '>' :: rest ∧
      splitName cs = some (name, '>' :: rest) := by
  unfold readName? at h
  split at h
  · next name after hsplit =>
      cases h
      exact ⟨name, rfl, (splitWord_append hsplit).symm, hsplit⟩
  · cases h

theorem chars_namedOpen (style : NameStyle) (name : List Char) :
    (namedOpen style (String.ofList name)).chars = style.opening.toList ++ name ++ ['>'] := by
  simp only [chars, render, String.toList_append, String.toList_ofList]
  rfl

theorem chars_readGroup (cs : List Char) :
    (readGroup cs).1.chars ++ (readGroup cs).2 = '(' :: cs := by
  fun_cases readGroup cs with
  | case1 cs =>
      cases h : readName? .plain cs with
      | none => simp [chars, render]
      | some p =>
          obtain ⟨name, ht, rfl, -⟩ := readName?_eq_some h
          simp [ht, chars_namedOpen, NameStyle.opening]
  | case2 cs =>
      cases h : readName? .withP cs with
      | none => simp [chars, render]
      | some p =>
          obtain ⟨name, ht, rfl, -⟩ := readName?_eq_some h
          simp [ht, chars_namedOpen, NameStyle.opening]
  | case3 => simp [chars, render]
  | case4 => simp [chars, render]

theorem chars_reference (id : List Char) :
    (reference (String.ofList id)).chars = '$' :: '{' :: id ++ ['}'] := by
  simp only [chars, render, String.toList_append, String.toList_ofList]
  rfl

theorem chars_call (id args : List Char) :
    (call (String.ofList id) (String.ofList args)).chars =
      '$' :: '{' :: id ++ '(' :: args ++ [')', '}'] := by
  simp [chars, render, String.toList_append, String.toList_ofList]

theorem chars_readDollar (cs : List Char) :
    (readDollar cs).1.chars ++ (readDollar cs).2 = '$' :: cs := by
  fun_cases readDollar cs with
  | case1 inside id rest hsplit =>
      simp [chars_reference, ← splitWord_append hsplit]
  | case2 inside id more hsplit rest hclose =>
      have hmore := List.takeWhile_append_dropWhile (p := (· ≠ ')')) (l := more)
      rw [hclose] at hmore
      simp only [chars_call, ← splitWord_append hsplit]
      conv => rhs; rw [← hmore]
      simp
  | case3 | case4 | case5 => simp [chars, render]

theorem chars_read (c : Char) (cs : List Char) :
    (read c cs).1.chars ++ (read c cs).2 = c :: cs := by
  unfold read
  split
  · next h => rw [h, chars_readEscape]
  split
  · next h => rw [h, chars_readClass]
  split
  · next h => rw [h, chars_readGroup]
  split
  · next h => rw [h, chars_readDollar]
  · simp [chars, render, List.takeWhile_append_dropWhile]

theorem lexList_induction {motive : List Char → Prop} (nil : motive [])
    (step : ∀ c cs, motive (read c cs).2 → motive (c :: cs)) (cs : List Char) : motive cs := by
  match cs with
  | [] => exact nil
  | c :: cs => exact step c cs (lexList_induction nil step (read c cs).2)
termination_by cs.length
decreasing_by exact Nat.lt_succ_of_le (read_length c cs)

theorem renders_lexList (cs : List Char) : renders (lexList cs) = cs := by
  induction cs using lexList_induction with
  | nil => rw [lexList_nil, renders_nil]
  | step c cs ih => rw [lexList_cons, renders_cons, ih, chars_read]

theorem renders_lex (source : String) : renders (lex source) = source.toList :=
  renders_lexList source.toList

theorem chars_marked {t : Token} (h : ∀ x ∈ Marked.names t.marked, x = none) :
    Marked.chars t.marked = t.chars := by
  cases t with
  | namedOpen style name => simp [marked] at h
  | groupOpen => rfl
  | charClass s => exact Marked.chars_ofClass s
  | text | escape | specialOpen | reference | call => exact Marked.chars_plain _

/-- A text whose openers give no names keeps all its characters. -/
theorem chars_marks {cs : List Char} (h : ∀ x ∈ Marked.names (marks cs), x = none) :
    Marked.chars (marks cs) = cs := by
  induction cs using lexList_induction with
  | nil => simp
  | step c cs ih =>
      rw [marks_cons, Marked.names_append, List.forall_mem_append] at h
      rw [marks_cons, Marked.chars_append, chars_marked h.1, ih h.2, chars_read]

end Patchwork.Token
