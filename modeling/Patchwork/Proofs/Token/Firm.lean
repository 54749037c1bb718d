import Patchwork.Proofs.Token.Forms

/-!
Firm tokens: forms and classes that are complete, and so are read as they stand whatever follows. Arguments,
names and classes are looked for in all of the text; but one that is complete lies before the end of its token,
and one that is not complete in the text is not in a part of it. A text that is cut where a token ends is
therefore read up to there as it was.
-/

namespace Patchwork.Token

variable {c : Char} {cs next rest : List Char} {t : Token}

/-- The token is read where its text begins, whatever follows. -/
def IsFirm (t : Token) : Prop := ∀ rest, lexList (t.chars ++ rest) = t :: lexList rest

theorem read_of_lexList {ts : List Token} (h : lexList (c :: cs) = t :: ts) (hcs : c :: cs = t.chars ++ rest) :
    read c cs = (t, rest) := by
  rw [lexList_cons] at h
  have ht := (List.cons.inj h).1
  have hchars := chars_read c cs
  rw [ht, hcs] at hchars
  exact Prod.ext ht (List.append_cancel_left hchars)

namespace IsFirm

theorem read_eq (ht : t.IsFirm) (hcs : c :: cs = t.chars ++ rest) : read c cs = (t, rest) := by
  have hlex := ht rest
  rw [← hcs] at hlex
  exact read_of_lexList hlex hcs

theorem marks_append (ht : t.IsFirm) (next : List Char) : marks (t.chars ++ next) = t.marked ++ marks next := by
  rw [marks, ht, List.flatMap_cons, marks]

theorem read_of_append (ht : t.IsFirm) (h : read c (cs ++ next) = (t, rest ++ next)) :
    read c cs = (t, rest) := by
  have hchars := chars_read c (cs ++ next)
  rw [h, ← List.append_assoc, ← List.cons_append] at hchars
  exact ht.read_eq (List.append_cancel_right hchars).symm

theorem read_append (ht : (read c cs).1.IsFirm) (next : List Char) :
    read c (cs ++ next) = ((read c cs).1, (read c cs).2 ++ next) := by
  refine ht.read_eq ?_
  rw [← List.append_assoc, chars_read]
  rfl

end IsFirm

theorem splitClass_of_ne_nil {depth : Nat} {cs : List Char} (h : (splitClass depth cs).2 ≠ [])
    (next : List Char) :
    (splitClass depth cs).1 ≠ [] ∧
      splitClass depth ((splitClass depth cs).1 ++ next) = ((splitClass depth cs).1, next) := by
  fun_induction splitClass depth cs with
  | case7 depth c cs hlone hpair hopen hclose hinner inside rest hsplit ih =>
      have hc := ordinary_of_otherwise hlone hpair hopen hclose hinner
      obtain ⟨-, ih⟩ := ih (by rwa [hsplit])
      rw [hsplit] at ih
      exact ⟨List.cons_ne_nil _ _, by rw [List.cons_append, splitClass_ordinary hc, ih]⟩
  | _ => simp_all [splitClass]

theorem splitClassHead_of_append {cs inside rest : List Char} (hne : inside ≠ [])
    (h : (splitClassHead cs).2 = inside ++ rest) (next : List Char) :
    splitClassHead ((splitClassHead cs).1 ++ (inside ++ next)) = ((splitClassHead cs).1, inside ++ next) := by
  obtain ⟨d, ds, rfl⟩ := List.exists_cons_of_ne_nil hne
  fun_cases splitClassHead cs <;> simp_all [splitClassHead]

theorem isFirm_readClass (h : (readClass cs).2 ≠ []) : (readClass cs).1.IsFirm := by
  intro next
  have hafter : (splitClass 0 (splitClassHead cs).2).2 ≠ [] := h
  obtain ⟨hne, hclass⟩ := splitClass_of_ne_nil hafter next
  have hfirst := splitClassHead_of_append hne (splitClass_append 0 _).symm next
  have hread : read '[' ((splitClassHead cs).1 ++ ((splitClass 0 (splitClassHead cs).2).1 ++ next)) =
      ((readClass cs).1, next) := by
    simp [read, readClass, hfirst, hclass]
  have hchars : (readClass cs).1.chars ++ next =
      '[' :: ((splitClassHead cs).1 ++ ((splitClass 0 (splitClassHead cs).2).1 ++ next)) := by
    simp [readClass, chars, render]
  rw [hchars, lexList_cons, hread]

theorem readGroup_cases (cs : List Char) :
    readGroup cs = (groupOpen, cs) ∧ cs.head? ≠ some '?' ∨
      (∃ rest, cs = '?' :: rest ∧ readGroup cs = (specialOpen, rest)) ∨
        ∃ style name rest, readGroup cs = (namedOpen style (String.ofList name), rest) ∧
          ∀ c ∈ name, IsNoParen c := by
  fun_cases readGroup cs with
  | case1 cs =>
      cases h : readName? .plain cs with
      | none => exact .inr (.inl ⟨_, rfl, rfl⟩)
      | some p =>
          obtain ⟨name, ht, -, hname, -⟩ := readName?_of_append h
          exact .inr (.inr ⟨_, name, p.2, Prod.ext ht rfl, hname⟩)
  | case2 cs =>
      cases h : readName? .withP cs with
      | none => exact .inr (.inl ⟨_, rfl, rfl⟩)
      | some p =>
          obtain ⟨name, ht, -, hname, -⟩ := readName?_of_append h
          exact .inr (.inr ⟨_, name, p.2, Prod.ext ht rfl, hname⟩)
  | case3 cs => exact .inr (.inl ⟨cs, rfl, rfl⟩)
  | case4 cs _ _ hno =>
      refine .inl ⟨rfl, fun h => ?_⟩
      obtain ⟨rest, rfl⟩ := List.head?_eq_some_iff.1 h
      exact hno rest rfl

theorem dropWhile_of_append {p : Char → Bool} (h : (cs ++ next).dropWhile p = rest ++ next) :
    (cs ++ next).takeWhile p = cs.takeWhile p ∧ cs.dropWhile p = rest := by
  induction cs with
  | nil =>
      have hsplit := List.takeWhile_append_dropWhile (p := p) (l := next)
      rw [List.nil_append] at h
      rw [h, ← List.append_assoc, List.append_left_eq_self] at hsplit
      obtain ⟨htake, rfl⟩ := List.append_eq_nil_iff.1 hsplit
      exact ⟨htake, rfl⟩
  | cons c cs ih =>
      rw [List.cons_append, List.dropWhile_cons] at h
      rw [List.cons_append, List.takeWhile_cons, List.takeWhile_cons, List.dropWhile_cons]
      by_cases hc : p c
      · rw [if_pos hc] at h ⊢
        obtain ⟨htake, hdrop⟩ := ih h
        simp [hc, htake, hdrop]
      · rw [if_neg hc] at h
        simpa [hc] using List.append_cancel_right h

theorem readDollar_of_not_isFirm (h : ¬(readDollar cs).1.IsFirm) : readDollar cs = (text "$", cs) := by
  have hfields : ¬(readDollar cs).1.hasFields := fun hfields =>
    h (lexList_of_isFormed hfields (isFormed_readDollar cs))
  revert hfields
  fun_cases readDollar cs <;> simp [hasFields]

theorem readGroup_of_not_isFirm (h : ¬(readGroup cs).1.IsFirm) :
    readGroup cs = (groupOpen, cs) ∧ cs.head? ≠ some '?' ∨
      ∃ rest, cs = '?' :: rest ∧ readGroup cs = (specialOpen, rest) := by
  rcases readGroup_cases cs with hopen | hspecial | ⟨style, name, rest, heq, -⟩
  · exact .inl hopen
  · exact .inr hspecial
  · have hformed := isFormed_readGroup cs
    rw [heq] at h hformed
    exact absurd (lexList_of_isFormed rfl hformed) h

theorem readClass_of_not_isFirm (h : ¬(readClass cs).1.IsFirm) : (readClass cs).2 = [] :=
  Classical.not_not.1 fun hne => h (isFirm_readClass hne)

theorem readEscape_of_append (h : readEscape (cs ++ next) = (t, rest ++ next)) : readEscape cs = (t, rest) := by
  cases cs with
  | nil =>
      cases next with
      | nil => simpa using h
      | cons d ds =>
          have hlen := congrArg List.length (Prod.mk.inj h).2
          simp only [List.length_append, List.length_cons] at hlen
          omega
  | cons d ds =>
      obtain ⟨rfl, hrest⟩ := Prod.mk.inj h
      rw [← List.append_cancel_right hrest]
      rfl

theorem readGroup_of_append (hlong : ¬(readGroup (cs ++ next)).1.IsFirm) (hshort : ¬(readGroup cs).1.IsFirm)
    (h : readGroup (cs ++ next) = (t, rest ++ next)) : readGroup cs = (t, rest) := by
  rcases readGroup_of_not_isFirm hlong with ⟨hopen, hhead⟩ | ⟨after, hafter, hspecial⟩
  · rw [hopen] at h
    obtain ⟨rfl, hrest⟩ := Prod.mk.inj h
    rcases readGroup_of_not_isFirm hshort with ⟨hopen', -⟩ | ⟨after', rfl, -⟩
    · rw [hopen', List.append_cancel_right hrest]
    · exact absurd rfl hhead
  · rw [hspecial] at h
    obtain ⟨rfl, rfl⟩ := Prod.mk.inj h
    obtain rfl : cs = '?' :: rest := List.append_cancel_right hafter
    rcases readGroup_of_not_isFirm hshort with ⟨-, hhead'⟩ | ⟨after', hafter', hspecial'⟩
    · exact absurd rfl hhead'
    · rw [hspecial', (List.cons.inj hafter').2]

theorem read_of_append (h : read c (cs ++ next) = (t, rest ++ next)) : read c cs = (t, rest) := by
  by_cases hlong : (read c (cs ++ next)).1.IsFirm
  · rw [h] at hlong
    exact hlong.read_of_append h
  by_cases hshort : (read c cs).1.IsFirm
  · rw [hshort.read_append] at h
    obtain ⟨ht, hrest⟩ := Prod.mk.inj h
    exact Prod.ext ht (List.append_cancel_right hrest)
  -- neither with the part that is cut off nor without it is a complete form or class read
  cases hc : isStructural c with
  | false =>
      rw [read_ordinary hc] at h ⊢
      obtain ⟨rfl, hrest⟩ := Prod.mk.inj h
      obtain ⟨htake, hdrop⟩ := dropWhile_of_append hrest
      rw [htake, hdrop]
  | true =>
      rcases isStructural_cases hc with rfl | rfl | rfl | rfl
      · exact readEscape_of_append h
      · have hnil := (congrArg Prod.snd h).symm.trans (readClass_of_not_isFirm hlong)
        obtain ⟨rfl, rfl⟩ := List.append_eq_nil_iff.1 hnil
        simpa using h
      · exact readGroup_of_append hlong hshort h
      · have hdollar := (readDollar_of_not_isFirm hlong).symm.trans h
        obtain ⟨rfl, hrest⟩ := Prod.mk.inj hdollar
        rw [← List.append_cancel_right hrest]
        exact readDollar_of_not_isFirm hshort

/-- The first token of a text is read without what is cut off further behind. -/
theorem lexList_of_append {xs : List Char}
    (h : lexList (t.chars ++ (xs ++ next)) = t :: lexList (xs ++ next)) :
    lexList (t.chars ++ xs) = t :: lexList xs := by
  have hne : t.chars ≠ [] := chars_ne_nil_of_mem_lexList t (by rw [h]; exact List.mem_cons_self)
  obtain ⟨c, cs, hcs⟩ := List.exists_cons_of_ne_nil hne
  rw [hcs, List.cons_append, ← List.append_assoc] at h
  have hread : read c (cs ++ xs ++ next) = (t, xs ++ next) :=
    read_of_lexList h (by rw [hcs, List.cons_append, List.append_assoc])
  rw [hcs, List.cons_append, lexList_cons, Token.read_of_append hread]

/-- The tokens up to the end of one are read as well where the text ends there. -/
theorem lexList_renders_left {before after : List Token} (h : lexList cs = before ++ after) :
    lexList (renders before) = before := by
  induction before generalizing cs with
  | nil => exact lexList_nil
  | cons t before ih =>
      have hcons : lexList cs = [t] ++ (before ++ after) := h
      have hrest := lexList_renders_of_append hcons
      have hcs : cs = t.chars ++ (renders before ++ renders after) := by
        rw [← renders_lexList cs, h, List.cons_append, renders_cons, renders_append]
      have hread : lexList (t.chars ++ (renders before ++ renders after)) =
          t :: lexList (renders before ++ renders after) := by
        rw [← hcs, ← renders_append, hrest, h, List.cons_append]
      rw [renders_cons, lexList_of_append hread, ih hrest]

end Patchwork.Token
