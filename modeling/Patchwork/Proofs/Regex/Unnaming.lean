import Patchwork.Proofs.Regex.Shifting

namespace Patchwork

open Token

namespace Token

theorem head?_marked (t : Token) : (Marked.chars t.marked).head? = t.chars.head? := by
  cases t with
  | namedOpen style name => cases style <;> simp [marked, chars, render, NameStyle.opening, Marked.opener]
  | text | escape | charClass | groupOpen | specialOpen | reference | call =>
      rw [chars_marked (by simp [marked])]

theorem head?_marks (c : Char) (cs : List Char) : (Marked.chars (marks (c :: cs))).head? = some c := by
  have hchars := chars_read c cs
  have hle := read_length c cs
  have hmarked := head?_marked (Token.read c cs).1
  rw [marks_cons, Marked.chars_append, List.head?_append, hmarked]
  cases ht : (Token.read c cs).1.chars with
  | nil =>
      rw [ht, List.nil_append] at hchars
      rw [hchars] at hle
      exact absurd hle (Nat.not_succ_le_self _)
  | cons d ds =>
      rw [ht] at hchars
      exact congrArg some (List.cons.inj hchars).1

end Token

namespace Regex

/-- Of a text, all but the last `n` characters as they are, and these without the names of their openers. -/
def bared (n : Nat) (cs : List Char) : List Char :=
  cs.take (cs.length - n) ++ Marked.chars (marks (cs.drop (cs.length - n)))

section Bared

variable {n : Nat} {c : Char} {cs : List Char}

theorem bared_of_length_le (h : cs.length ≤ n) : bared n cs = Marked.chars (marks cs) := by
  rw [bared, Nat.sub_eq_zero_of_le h]
  rfl

theorem bared_append (p rest : List Char) :
    bared rest.length (p ++ rest) = p ++ Marked.chars (marks rest) := by
  rw [bared, List.length_append, Nat.add_sub_cancel, List.take_left, List.drop_left]

theorem bared_cons (h : n ≤ cs.length) (c : Char) : bared n (c :: cs) = c :: bared n cs := by
  rw [bared, bared, List.length_cons, Nat.succ_sub h]
  rfl

theorem bared_nil (n : Nat) : bared n [] = [] := by
  rw [bared_of_length_le (Nat.zero_le n), marks_nil, Marked.chars_nil]

theorem head?_bared (n : Nat) (cs : List Char) : (bared n cs).head? = cs.head? := by
  cases cs with
  | nil => rw [bared_nil]
  | cons c cs =>
      by_cases hn : n ≤ cs.length
      · rw [bared_cons hn]
        rfl
      · rw [bared_of_length_le (Nat.not_le.1 hn), head?_marks]
        rfl

/-- A text goes along with what is left of it, up to the end of an item. -/
theorem Tracks.bared (n : Nat) : Tracks false n fun cs ds => ds = bared n cs where
  nil h _ := by rw [h, bared_nil]; exact ends_nil
  head {c cs ds} h := by
    have hhead : ds.head? = some c := by rw [h, head?_bared]; rfl
    obtain ⟨ds', rfl⟩ := List.head?_eq_some_iff.1 hhead
    exact ⟨ds', rfl⟩
  tail {c cs ds} h hc := by
    by_cases hn : n ≤ cs.length
    · rw [bared_cons hn] at h
      exact (List.cons.inj h).2
    · have hplain := hc.resolve_right hn
      rw [Nat.not_le] at hn
      rw [bared_of_length_le hn, marks_ordinary hplain] at h
      rw [bared_of_length_le (Nat.le_of_lt hn)]
      exact (List.cons.inj h).2
  blanks h := h
  peeks {c cs ds} h _ _ := by
    have hhead := head?_bared n cs
    rw [← h] at hhead
    exact (Eq.congr_left hhead)

end Bared

namespace Item

def unname : Item → Item
  | .opening (.capture _) => .opening (.capture none)
  | item => item

variable {item : Item} {cs rest : List Char}

theorem unname_of_other (h : ∀ name, item ≠ .opening (.capture name)) : item.unname = item := by
  cases item with
  | opening o => cases o <;> first | rfl | exact absurd rfl (h _)
  | piece | operator | directive | bar | closing => rfl

theorem read_marks (h : read false cs = some (item, rest)) (hpasses : item.Passes cs rest)
    (halike : ∀ s ∈ Marked.classes (marks cs), ClosesAlike s) :
    read false (Marked.chars (marks cs)) = some (item, Marked.chars (marks rest)) := by
  by_cases hclass : cs.head? = some '['
  · obtain ⟨cs, rfl⟩ := List.head?_eq_some_iff.1 hclass
    obtain ⟨⟨s, after⟩, hs, heq⟩ := Option.map_eq_some_iff.1 h
    cases heq
    obtain ⟨p, -, hmarks, hread⟩ := exists_class hs halike
    rw [hmarks, Marked.chars_append, Marked.chars_ofClass, String.toList_ofList, List.cons_append]
    exact (Begins.class (hread _)).read
  · obtain ⟨-, ms, hmarks, hcs, -⟩ := hpasses
    have hbared : bared rest.length cs = Marked.chars (marks cs) := by
      rw [hmarks, Marked.chars_append, ← bared_append, ← hcs]
    obtain ⟨_, hread, rfl⟩ :=
      (Tracks.bared rest.length).readItem (.inl hclass) hbared.symm h (Nat.le_refl _)
    rw [hread, bared_of_length_le (Nat.le_refl _)]

theorem read_marks_opening {name : Option String} (hmarks : marks cs = Marked.opener name :: marks rest)
    (hrest : rest.head? ≠ some '?') :
    read false (Marked.chars (marks cs)) = some (.opening (.capture none), Marked.chars (marks rest)) := by
  have hhead : (Marked.chars (marks rest)).head? ≠ some '?' := by
    cases rest with
    | nil => simp
    | cons c rest => rwa [head?_marks]
  rw [hmarks]
  exact readOpening_plain hhead

theorem read_unname (h : read false cs = some (item, rest)) (hanswered : item.Answered)
    (hnext : rest ≠ [] → (read false rest).isSome) (halike : ∀ s ∈ Marked.classes (marks cs), ClosesAlike s)
    (hne : rest ≠ cs) (hopener : ∀ name, item = .opening (.capture name) → rest.head? ≠ some '?') :
    ∃ ms, ms ≠ [] ∧ marks cs = ms ++ marks rest ∧
      read false (Marked.chars (marks cs)) = some (item.unname, Marked.chars (marks rest)) := by
  rcases marks_item h hanswered hnext halike with ⟨name, rfl, hmarks, -⟩ | hpasses
  · exact ⟨[Marked.opener name], by simp, hmarks, read_marks_opening hmarks (hopener name rfl)⟩
  · have hread := read_marks h hpasses halike
    obtain ⟨hother, ms, hmarks, hcs, -⟩ := hpasses
    refine ⟨ms, ?_, hmarks, by rw [unname_of_other hother, hread]⟩
    rintro rfl
    exact hne hcs.symm

end Item

def GroupKind.unname : GroupKind → GroupKind
  | .capture index _ => .capture index none
  | .scoped changes => .scoped changes

namespace Tree

def unname (t : Tree) : Tree := t.relabel .unname

theorem resolve?_unname (m : Modes) (t : Tree) : t.unname.resolve? m = t.resolve? m := by
  unfold unname
  induction t generalizing m with
  | «repeat» min max greedy t ih => rw [relabel, resolve?, resolve?, ih]
  | group kind t ih =>
      cases kind with
      | capture index name => rw [relabel, GroupKind.unname, resolve?, resolve?, ih]
      | «scoped» changes => rw [relabel, GroupKind.unname, resolve?, resolve?, ih]
  | seq t u iht ihu | alt t u iht ihu => simp only [relabel, resolve?, iht, ihu]
  | empty | flags | literal | dot | assertion | «class» => rfl

theorem isTerse_unname (t : Tree) : t.unname.isTerse = t.isTerse := by
  unfold unname
  induction t with
  | «repeat» min max greedy t ih => exact ih
  | group kind t ih =>
      cases kind with
      | capture index name => exact ih
      | «scoped» changes => simp only [relabel, GroupKind.unname, isTerse, ih]
  | seq t u iht ihu | alt t u iht ihu => simp only [relabel, isTerse, iht, ihu]
  | empty | flags | literal | dot | assertion | «class» => rfl

theorem depth_unname (t : Tree) : t.unname.depth = t.depth := by
  unfold unname
  induction t with
  | «repeat» min max greedy t ih | group kind t ih => exact congrArg (· + 1) ih
  | seq t u iht ihu | alt t u iht ihu =>
      -- whether `u` goes on with the sequence or the alternation shows in its head
      cases u
      all_goals
        simp only [relabel] at ihu ⊢
        simp only [depth, iht] at ihu ⊢
        try rw [ihu]
  | empty | flags | literal | dot | assertion | «class» => rfl

end Tree

namespace Builder

variable {b b' : Builder} {item : Item} {cs rest : List Char}

def unname (b : Builder) : Builder where
  level := b.level.relabel .unname
  outer := b.outer.map fun g => ⟨g.before.relabel .unname, g.kind.unname, g.verbose⟩
  verbose := b.verbose
  captures := b.captures
  names := []

theorem push?_unname (h : b.push? item = some b') (hflat : item.Flat) :
    b.unname.push? item.unname = some b'.unname := by
  cases item with
  | piece t =>
      cases h
      have ht : t.relabel .unname = t := Tree.relabel_of_groups (fun _ => rfl) hflat
      simp [Item.unname, push?, unname, Level.push, Level.relabel, ht]
  | operator min max greedy =>
      obtain ⟨t, ts, hpieces, ht, rfl⟩ := exists_of_repeatLast? h
      have hpieces' : b.unname.level.pieces = t.relabel .unname :: ts.map (.relabel .unname) := by
        rw [unname, Level.relabel, hpieces, List.map_cons]
      have ht' : (t.relabel .unname).isDirective = false := by cases t <;> first | rfl | cases ht
      change b.unname.repeatLast? min max greedy = _
      rw [repeatLast?_of_pieces hpieces' ht']
      rfl
  | directive changes =>
      cases h
      rfl
  | opening o =>
      cases o with
      | capture name =>
          obtain ⟨-, rfl⟩ := openGroup?_capture_eq_some.1 h
          rfl
      | «scoped» changes =>
          cases h
          rfl
  | bar =>
      cases h
      have hbar : (b.level.relabel .unname).bar = b.level.bar.relabel .unname :=
        congrArg₂ Level.mk rfl (congrArg (· :: _) (b.level.branch_relabel _))
      exact congrArg some (congrArg (fun l => { b.unname with level := l }) hbar)
  | closing =>
      obtain ⟨g, outer, houter, rfl⟩ := closeGroup?_eq_some.1 h
      have houter' : b.unname.outer = ⟨g.before.relabel .unname, g.kind.unname, g.verbose⟩ ::
          outer.map fun g => ⟨g.before.relabel .unname, g.kind.unname, g.verbose⟩ := by
        rw [unname, houter, List.map_cons]
      refine closeGroup?_eq_some.2 ⟨_, _, houter', ?_⟩
      simp only [unname, b.level.finish_relabel]
      rfl

theorem head?_of_run {fuel : Nat} (h : run fuel b cs = some b') (hverbose : b.verbose = false)
    (hpieces : b.level.pieces = []) : cs.head? ≠ some '?' := by
  intro hhead
  obtain ⟨cs, rfl⟩ := List.head?_eq_some_iff.1 hhead
  cases fuel with
  | zero => cases h
  | succ fuel =>
      have hcases := run_cases h
      rw [hverbose, afterBlanks_false] at hcases
      rcases hcases with ⟨hnil, -⟩ | ⟨item, rest, next, hread, hpush, -⟩
      · cases hnil
      · cases hread
        obtain ⟨t, ts, hlast, -, -⟩ := exists_of_repeatLast? hpush
        rw [hpieces] at hlast
        cases hlast

/-- What is left of a text is read into what the text is read into, but for the names. -/
theorem run_marks {fuel fuel' : Nat} (hsteady : b.Steady) (h : run fuel b cs = some b') (hsettled : b'.Settled)
    (halike : ∀ s ∈ Marked.classes (marks cs), ClosesAlike s)
    (hfuel : (Marked.chars (marks cs)).length < fuel') :
    run fuel' b.unname (Marked.chars (marks cs)) = some b'.unname := by
  induction fuel generalizing b cs fuel' with
  | zero => cases h
  | succ fuel ih =>
      obtain ⟨fuel', rfl⟩ := Nat.exists_eq_succ_of_ne_zero (Nat.ne_zero_of_lt hfuel)
      have hverbose : b.unname.verbose = false := hsteady.verbose
      have hreads := reads_of_run hsteady h hsettled
      have hcases := run_cases h
      rw [hsteady.verbose, afterBlanks_false] at hcases
      rcases hcases with ⟨rfl, rfl⟩ | ⟨item, rest, next, hread, hpush?, hrun⟩
      · exact run_of_blank (by rw [hverbose, marks_nil]; rfl)
      have hpush := pushes_of_push? hpush?
      obtain ⟨-, hitem⟩ := hpush.settled (settled_of_run hrun hsettled)
      have hsteady' := hpush.steady hitem hsteady
      have hopener : ∀ name, item = .opening (.capture name) → rest.head? ≠ some '?' := by
        rintro name rfl
        refine head?_of_run hrun hsteady'.verbose ?_
        cases hpush
        rfl
      obtain ⟨ms, hms, hmarks, hread'⟩ := Item.read_unname hread hitem.answered
        (reads_of_run hsteady' hrun hsettled).isSome_read halike (hreads.ne_of_read hread) hopener
      have hlt : (Marked.chars (marks rest)).length < (Marked.chars (marks cs)).length := by
        rw [hmarks, Marked.chars, Marked.chars, List.length_map, List.length_map, List.length_append]
        exact Nat.lt_add_of_pos_left (List.length_pos_iff.2 hms)
      rw [run_of_read (by rwa [hverbose, afterBlanks_false])
        (push?_unname hpush? (Item.flat_of_read hread))]
      exact ih hsteady' hrun (alike_of_marks halike hmarks) (by omega)

end Builder

end Regex

end Patchwork
