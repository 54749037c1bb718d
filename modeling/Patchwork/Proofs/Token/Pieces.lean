import Patchwork.Proofs.Token.Tidy

namespace Patchwork.Token

open Marked

def AllStand : List Token → Prop
  | [] => True
  | t :: ts => t.Stands (renders ts) ∧ AllStand ts

theorem allStand_lexList {cs : List Char} (h : areTidy (lexList cs)) : AllStand (lexList cs) := by
  induction cs using lexList_induction with
  | nil => simp [lexList_nil, AllStand]
  | step c cs ih =>
      simp only [lexList_cons, areTidy, renders_lexList, Bool.and_eq_true, Bool.not_eq_true'] at h
      rw [lexList_cons]
      refine ⟨?_, ih h.2⟩
      rw [renders_lexList]
      exact stands_read h.1.1 h.1.2

/-- A text that is read in the same way whatever follows. -/
def IsClosed (cs : List Char) : Prop := ∀ next, marks (cs ++ next) = marks cs ++ marks next

theorem IsClosed.append {xs ys : List Char} (hx : IsClosed xs) (hy : IsClosed ys) :
    IsClosed (xs ++ ys) := by
  intro next
  rw [List.append_assoc, hx, hy, hx, List.append_assoc]

theorem isClosed_of_ordinary {cs : List Char} (h : Ordinary cs) :
    IsClosed cs ∧ marks cs = plain cs := by
  have hplain : marks cs = plain cs := by simpa using marks_text h []
  exact ⟨fun next => by rw [marks_text h, hplain], hplain⟩

def Ends (rest : List Char) : Prop := ∀ c, rest.head? = some c → ¬IsNoParen c

theorem ends_nil : Ends [] := fun c hc => by cases hc

theorem ends_close (cs : List Char) : Ends (')' :: cs) := by
  rintro c hc h
  cases hc
  exact h.2 rfl

theorem ends_of_head {cs : List Char} (h : cs.head? = some '(') : Ends cs := by
  rintro c hc hparen
  rw [h] at hc
  cases hc
  exact hparen.1 rfl

structure IsTight (cs : List Char) : Prop where
  head : cs.head? ≠ some '?'
  marks_append : ∀ next, Ends next → marks (cs ++ next) = marks cs ++ marks next

structure IsSealed (cs : List Char) : Prop where
  head : cs.head? = some '('
  closed : IsClosed cs

theorem IsSealed.tight {cs : List Char} (h : IsSealed cs) : IsTight cs :=
  ⟨by rw [h.head]; decide, fun next _ => h.closed next⟩

theorem IsSealed.append {xs ys : List Char} (hx : IsSealed xs) (hy : IsClosed ys) :
    IsSealed (xs ++ ys) := by
  refine ⟨?_, hx.closed.append hy⟩
  cases xs with
  | nil => cases hx.head
  | cons c cs => exact hx.head

def group (cs : List Char) : List Char := '(' :: (cs ++ [')'])

theorem IsTight.marks_group_append {cs : List Char} (h : IsTight cs) (next : List Char) :
    marks (group cs ++ next) = opener none :: marks cs ++ (')', none) :: marks next := by
  have hclose : isStructural ')' = false := by decide
  have hhead : (cs ++ ')' :: next).head? ≠ some '?' := by
    cases cs with
    | nil => simp
    | cons c cs => exact h.head
  have hgroup : group cs ++ next = '(' :: (cs ++ ')' :: next) := by simp [group]
  rw [hgroup, marks_open hhead, h.marks_append _ (ends_close next), marks_ordinary hclose]
  rfl

theorem IsTight.marks_group {cs : List Char} (h : IsTight cs) :
    marks (group cs) = opener none :: marks cs ++ [(')', none)] := by
  simpa using h.marks_group_append []

theorem IsTight.sealed {cs : List Char} (h : IsTight cs) : IsSealed (group cs) := by
  refine ⟨rfl, fun next => ?_⟩
  rw [h.marks_group_append, h.marks_group]
  simp

theorem isSealed_special {c : Char} {cs : List Char} (hc : c ≠ '<' ∧ c ≠ 'P')
    (h : Ordinary (c :: cs)) :
    IsSealed ('(' :: '?' :: c :: cs) ∧ marks ('(' :: '?' :: c :: cs) = plain ('(' :: '?' :: c :: cs) := by
  have hread : ∀ next, read '(' ('?' :: (c :: cs ++ next)) = (specialOpen, c :: cs ++ next) := by
    intro next
    exact readGroup.eq_3 _ (fun _ h => hc.1 (List.cons.inj h).1) fun _ h => hc.2 (List.cons.inj h).1
  have hmarks : ∀ next, marks ('(' :: '?' :: (c :: cs ++ next)) =
      plain ('(' :: '?' :: c :: cs) ++ marks next := by
    intro next
    rw [marks_of_read (hread next), marks_text h]
    rfl
  have hnil : marks ('(' :: '?' :: c :: cs) = plain ('(' :: '?' :: c :: cs) := by simpa using hmarks []
  exact ⟨⟨rfl, fun next => by rw [hnil]; exact hmarks next⟩, hnil⟩

inductive Piece : Token → List Char → List Marked → Prop where
  | own {t : Token} (h : t.isReplaced = false) : Piece t t.chars t.marked
  | unnamed (style : NameStyle) (name : String) : Piece (namedOpen style name) ['('] [opener none]
  | filling {t : Token} {cs : List Char} (h : IsSealed cs) : Piece t cs (marks cs)

theorem Piece.chars_or_head {t : Token} {cs : List Char} {ms : List Marked} (h : Piece t cs ms) :
    cs = t.chars ∨ cs.head? = some '(' := by
  cases h with
  | own => exact .inl rfl
  | unnamed => exact .inr rfl
  | filling h => exact .inr h.head

variable {piece : Token → List Char} {marking : Token → List Marked} {ts more : List Token}
  {rest : List Char}

theorem exists_renders_eq (hpiece : ∀ t ∈ ts, piece t = t.chars ∨ (piece t).head? = some '(')
    (hrest : Ends rest) {p q : List Char} (hp : ∀ c ∈ p, IsNoParen c)
    (h : ts.flatMap piece ++ rest = p ++ q) : ∃ q', renders (ts ++ more) = p ++ q' := by
  induction ts generalizing p with
  | nil =>
      cases p with
      | nil => exact ⟨_, rfl⟩
      | cons c p =>
          rw [List.flatMap_nil, List.nil_append] at h
          exact absurd (hp c List.mem_cons_self) (hrest c (by rw [h]; rfl))
  | cons t ts ih =>
      obtain ⟨ht, hts⟩ := List.forall_mem_cons.1 hpiece
      rw [List.flatMap_cons, List.append_assoc] at h
      rw [List.cons_append, renders_cons]
      rcases ht with ht | ht
      · rw [ht] at h
        rcases List.append_eq_append_iff.1 h with ⟨p', rfl, hp'⟩ | ⟨q', hq', -⟩
        · obtain ⟨q', hq'⟩ := ih hts (fun c hc => hp c (List.mem_append_right _ hc)) hp'
          exact ⟨q', by rw [hq', List.append_assoc]⟩
        · exact ⟨q' ++ renders (ts ++ more), by rw [hq', List.append_assoc]⟩
      · cases p with
        | nil => exact ⟨_, rfl⟩
        | cons c p =>
            cases hcs : piece t with
            | nil => simp [hcs] at ht
            | cons d ds =>
                rw [hcs] at h ht
                obtain ⟨rfl, -⟩ := List.cons.inj h
                exact absurd (Option.some.inj ht) (hp _ List.mem_cons_self).1

/-- A group opener with a question mark is special, unless there is a name with its brackets after it:
then that tells, and nothing that follows. -/
theorem readGroup_question (next : List Char) :
    readGroup ('?' :: next) = (specialOpen, next) ∨
      ∃ p after t, next = p ++ after ∧ (∀ c ∈ p, IsNoParen c) ∧ t ≠ specialOpen ∧
        ∀ next, readGroup ('?' :: (p ++ next)) = (t, next) := by
  have hangle : IsNoParen '<' ∧ IsNoParen 'P' ∧ IsNoParen '>' := by
    refine ⟨?_, ?_, ?_⟩ <;> exact ⟨by decide, by decide⟩
  by_cases hplain : ∃ cs, next = '<' :: cs
  · obtain ⟨cs, rfl⟩ := hplain
    cases hname : readName? .plain cs with
    | none => exact .inl (by simp [readGroup, hname])
    | some p =>
        obtain ⟨t, after⟩ := p
        obtain ⟨name, rfl, rfl, hparen, hread⟩ := readName?_of_append hname
        refine .inr ⟨'<' :: name ++ ['>'], after, namedOpen .plain (String.ofList name), ?_⟩
        refine ⟨by simp, ?_, by simp, fun next => by simp [readGroup, hread]⟩
        simpa [or_imp, forall_and, hangle] using hparen
  by_cases hwithP : ∃ cs, next = 'P' :: '<' :: cs
  · obtain ⟨cs, rfl⟩ := hwithP
    cases hname : readName? .withP cs with
    | none => exact .inl (by simp [readGroup, hname])
    | some p =>
        obtain ⟨t, after⟩ := p
        obtain ⟨name, rfl, rfl, hparen, hread⟩ := readName?_of_append hname
        refine .inr ⟨'P' :: '<' :: name ++ ['>'], after, namedOpen .withP (String.ofList name), ?_⟩
        refine ⟨by simp, ?_, by simp, fun next => by simp [readGroup, hread]⟩
        simpa [or_imp, forall_and, hangle] using hparen
  exact .inl (readGroup.eq_3 next (fun cs h => hplain ⟨cs, h⟩) fun cs h => hwithP ⟨cs, h⟩)

/-- A token stands also where a text follows whose beginnings without parentheses are beginnings of
what follows it in the source. -/
theorem Stands.transfer {t : Token} {next next' : List Char} (h : t.Stands next)
    (hnext : ∀ p q, (∀ c ∈ p, IsNoParen c) → next' = p ++ q → ∃ q', next = p ++ q') :
    t.Stands next' := by
  have hhead : ∀ c, IsNoParen c → next.head? ≠ some c → next'.head? ≠ some c := by
    intro c hc hne hc'
    obtain ⟨q, rfl⟩ : ∃ q, next' = [c] ++ q := by
      cases next' with
      | nil => cases hc'
      | cons d ds => exact ⟨ds, by rw [Option.some.inj hc']; rfl⟩
    obtain ⟨q', rfl⟩ := hnext [c] q (by simpa using hc) rfl
    exact hne rfl
  have hquestion : IsNoParen '?' := ⟨by decide, by decide⟩
  have hbrace : IsNoParen '{' := ⟨by decide, by decide⟩
  cases t with
  | text s => exact h.imp_right fun h => ⟨h.1, hhead _ hbrace h.2⟩
  | escape s => exact h
  | charClass s => exact h
  | groupOpen => exact hhead _ hquestion h
  | namedOpen style name => exact ⟨hhead _ hquestion h.1, h.2⟩
  | reference | call => trivial
  | specialOpen =>
      change readGroup ('?' :: next) = _ at h
      change readGroup ('?' :: next') = _
      rcases readGroup_question next' with h' | ⟨p, after, t, rfl, hp, ht, hread⟩
      · exact h'
      · obtain ⟨q', rfl⟩ := hnext p after hp rfl
        rw [hread] at h
        exact absurd (Prod.mk.inj h).1 ht

theorem Piece.marks_append {t : Token} {cs : List Char} {ms : List Marked} (h : Piece t cs ms)
    {next : List Char} (hs : t.Stands next) : marks (cs ++ next) = ms ++ marks next := by
  cases h with
  | own ht => exact marks_of_stands ht hs
  | unnamed style name => exact marks_open hs.1
  | filling hsealed => exact hsealed.closed next

theorem marks_flatMap (hstand : AllStand (ts ++ more))
    (hpiece : ∀ t ∈ ts, Piece t (piece t) (marking t)) (hrest : Ends rest) :
    marks (ts.flatMap piece ++ rest) = ts.flatMap marking ++ marks rest := by
  induction ts with
  | nil => rfl
  | cons t ts ih =>
      obtain ⟨ht, hts⟩ := List.forall_mem_cons.1 hpiece
      have hnext : t.Stands (ts.flatMap piece ++ rest) := by
        refine hstand.1.transfer fun p q hp h => ?_
        exact exists_renders_eq (fun t h => (hts t h).chars_or_head) hrest hp h
      rw [List.flatMap_cons, List.append_assoc, ht.marks_append hnext, ih hstand.2 hts,
        List.flatMap_cons, List.append_assoc]

theorem isTight_flatMap (hstand : AllStand ts) (hhead : (renders ts).head? ≠ some '?')
    (hpiece : ∀ t ∈ ts, Piece t (piece t) (marking t)) : IsTight (ts.flatMap piece) := by
  have hstand' : AllStand (ts ++ []) := by simpa using hstand
  have hmarks : ∀ next, Ends next →
      marks (ts.flatMap piece ++ next) = ts.flatMap marking ++ marks next :=
    fun next hnext => marks_flatMap hstand' hpiece hnext
  have hnil : marks (ts.flatMap piece) = ts.flatMap marking := by simpa using hmarks [] ends_nil
  refine ⟨fun hquestion => hhead ?_, fun next hnext => by rw [hmarks next hnext, hnil]⟩
  obtain ⟨q, hq⟩ : ∃ q, ts.flatMap piece = ['?'] ++ q := by
    cases hcs : ts.flatMap piece with
    | nil => simp [hcs] at hquestion
    | cons d ds =>
        rw [hcs] at hquestion
        exact ⟨ds, by rw [Option.some.inj hquestion]; rfl⟩
  have hplain : ∀ c ∈ ['?'], IsNoParen c := by simp [IsNoParen]
  obtain ⟨q', hq'⟩ : ∃ q', renders (ts ++ []) = ['?'] ++ q' :=
    exists_renders_eq (fun t h => (hpiece t h).chars_or_head) ends_nil hplain (by rw [List.append_nil, hq])
  rw [List.append_nil] at hq'
  rw [hq']
  rfl

end Patchwork.Token
