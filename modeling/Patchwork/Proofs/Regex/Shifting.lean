import Mathlib.Data.List.Forall2
import Patchwork.Proofs.Regex.Trees

namespace Patchwork.Regex

/-- The second level has the pieces of the first on directives, so that an operator has a piece to apply
to in the first if it has one in the second. -/
def Level.Bears (l l' : Level) : Prop :=
  ∃ n, l'.pieces.map Tree.isDirective = l.pieces.map Tree.isDirective ++ List.replicate n true

theorem Level.Bears.refl (l : Level) : l.Bears l := ⟨0, by simp⟩

theorem Level.Bears.push {l l' : Level} (h : l.Bears l') {t t' : Tree} (ht : t'.isDirective = t.isDirective) :
    (l.push t).Bears (l'.push t') := by
  obtain ⟨n, hn⟩ := h
  exact ⟨n, by simp [Level.push, ht, hn]⟩

namespace Builder

variable {b b' own own' x x' : Builder} {item : Item} {cs rest next : List Char} {k : Nat}
  {outer : List OpenGroup}

structure Bears (x own : Builder) : Prop where
  level : x.level.Bears own.level
  outer : List.Forall₂ (fun g o => g.before.Bears o.before ∧ g.verbose = o.verbose) x.outer own.outer
  verbose : x.verbose = own.verbose
  names : x.names = own.names

theorem Bears.steady (h : x.Bears own) (hsteady : own.Steady) : x.Steady := by
  refine ⟨h.verbose.trans hsteady.verbose, fun g hg => ?_⟩
  have houter := h.outer
  have hown := hsteady.outer
  generalize x.outer = gs at houter hg
  generalize own.outer = os at houter hown
  induction houter with
  | nil => cases hg
  | cons hhead _ ih =>
      obtain ⟨ho, hown⟩ := List.forall_mem_cons.1 hown
      rcases List.mem_cons.1 hg with rfl | hg
      · exact hhead.2.trans ho
      · exact ih hg hown

theorem Bears.outer_eq_nil (h : x.Bears own) (hown : own.outer = []) : x.outer = [] := by
  have houter := h.outer
  rw [hown] at houter
  exact List.forall₂_nil_right_iff.1 houter

theorem Bears.push? (h : x.Bears own) (hpush : own.push? item = some own') :
    ∃ x', x.push? item = some x' ∧ x'.Bears own' := by
  obtain ⟨hlevel, houter, hverbose, hnames⟩ := h
  cases item with
  | piece t =>
      cases hpush
      exact ⟨_, rfl, hlevel.push rfl, houter, hverbose, hnames⟩
  | operator min max greedy =>
      obtain ⟨t, ts, hpieces, ht, rfl⟩ := exists_of_repeatLast? hpush
      obtain ⟨n, hn⟩ := hlevel
      rw [hpieces, List.map_cons, ht] at hn
      cases hx : x.level.pieces with
      | nil =>
          rw [hx, List.map_nil, List.nil_append] at hn
          cases n <;> cases hn
      | cons u us =>
          rw [hx, List.map_cons, List.cons_append] at hn
          obtain ⟨hu, hn⟩ := List.cons.inj hn
          exact ⟨_, repeatLast?_of_pieces hx hu.symm min max greedy, ⟨n, congrArg (false :: ·) hn⟩, houter,
            hverbose, hnames⟩
  | directive changes =>
      cases hpush
      exact ⟨_, rfl, hlevel.push rfl, houter, congrArg (FlagChange.verboseAfter changes) hverbose, hnames⟩
  | opening o =>
      cases o with
      | capture name =>
          obtain ⟨hfresh, rfl⟩ := openGroup?_capture_eq_some.1 hpush
          rw [← hnames] at hfresh
          exact ⟨_, openGroup?_capture_eq_some.2 ⟨hfresh, rfl⟩, .refl _, .cons ⟨hlevel, hverbose⟩ houter, hverbose,
            congrArg (name.toList ++ ·) hnames⟩
      | «scoped» changes =>
          cases hpush
          exact ⟨_, rfl, .refl _, .cons ⟨hlevel, hverbose⟩ houter,
            congrArg (FlagChange.verboseAfter changes) hverbose, hnames⟩
  | bar =>
      cases hpush
      exact ⟨_, rfl, .refl _, houter, hverbose, hnames⟩
  | closing =>
      obtain ⟨o, os, hown, rfl⟩ := closeGroup?_eq_some.1 hpush
      rw [hown] at houter
      obtain ⟨g, gs, hhead, hrest, hx⟩ := List.forall₂_cons_right_iff.1 houter
      exact ⟨_, closeGroup?_eq_some.2 ⟨g, gs, hx, rfl⟩, hhead.1.push rfl, hrest, hhead.2, hnames⟩

structure Mirrors (k : Nat) (outer : List OpenGroup) (x b : Builder) : Prop where
  level : b.level = x.level.shift k
  outer : ∃ inner, b.outer = inner ++ outer ∧
    List.Forall₂ (fun g o => o.before = g.before.shift k ∧ o.kind = g.kind.shift k) x.outer inner
  captures : b.captures = x.captures + k

theorem Pushes.mirrors (hx : x.Pushes item x') (hb : b.Pushes item b') (hflat : item.Flat)
    (h : Mirrors k outer x b) : Mirrors k outer x' b' := by
  obtain ⟨hlevel, ⟨inner, houter, hinner⟩, hcaptures⟩ := h
  cases hx with
  | piece t =>
      cases hb with
      | piece =>
          refine ⟨?_, ⟨inner, houter, hinner⟩, hcaptures⟩
          have hshift : t.shift k = t := Tree.shift_of_groups hflat k
          simp [hlevel, Level.push, Level.shift, hshift]
  | @operator t ts min max greedy hlast =>
      cases hb with
      | operator _ _ _ hlast' =>
          rw [hlevel, Level.shift, hlast] at hlast'
          obtain ⟨rfl, rfl⟩ := List.cons.inj hlast'
          exact ⟨by rw [hlevel]; rfl, ⟨inner, houter, hinner⟩, hcaptures⟩
  | directive changes =>
      cases hb with
      | directive => exact ⟨by rw [hlevel]; rfl, ⟨inner, houter, hinner⟩, hcaptures⟩
  | capture name names =>
      cases hb with
      | capture =>
          have hkind : GroupKind.capture (b.captures + 1) name =
              (GroupKind.capture (x.captures + 1) name).shift k := by
            rw [hcaptures, Nat.add_right_comm]
            rfl
          refine ⟨rfl, ⟨_ :: inner, congrArg _ houter, .cons ⟨hlevel, hkind⟩ hinner⟩, ?_⟩
          dsimp only
          omega
  | modes changes =>
      cases hb with
      | modes => exact ⟨rfl, ⟨_ :: inner, congrArg _ houter, .cons ⟨hlevel, rfl⟩ hinner⟩, hcaptures⟩
  | bar =>
      cases hb with
      | bar =>
          refine ⟨?_, ⟨inner, houter, hinner⟩, hcaptures⟩
          rw [hlevel]
          exact congrArg₂ Level.mk rfl (congrArg (· :: _) (Level.branch_shift k x.level))
  -- the first has a group open, so it is not the outer one that the second closes
  | closing hopen =>
      cases hb with
      | closing hopen' =>
          rw [hopen] at hinner
          obtain ⟨o, os, ⟨hbefore, hkind⟩, hrest, rfl⟩ := List.forall₂_cons_left_iff.1 hinner
          rw [houter, List.cons_append] at hopen'
          obtain ⟨rfl, rfl⟩ := List.cons.inj hopen'
          refine ⟨?_, ⟨os, rfl, hrest⟩, hcaptures⟩
          rw [hbefore, hkind, hlevel, Level.finish_shift]
          rfl

theorem run_of_read {fuel : Nat} (hread : Item.read b.verbose (afterBlanks b.verbose cs) = some (item, rest))
    (hpush : b.push? item = some b') : run (fuel + 1) b cs = run fuel b' rest := by
  cases hcs : afterBlanks b.verbose cs with
  | nil =>
      rw [hcs] at hread
      cases hread
  | cons c cs' =>
      rw [hcs] at hread
      simp [run, hcs, hread, hpush]

theorem run_of_blank {fuel : Nat} (hcs : afterBlanks b.verbose cs = []) : run (fuel + 1) b cs = some b := by
  simp [run, hcs]

theorem run_mono {fuel fuel' : Nat} (h : run fuel b cs = some b') (hle : fuel ≤ fuel') :
    run fuel' b cs = some b' := by
  induction fuel generalizing b cs fuel' with
  | zero => cases h
  | succ fuel ih =>
      obtain ⟨more, rfl⟩ := Nat.exists_eq_add_of_le' hle
      simp only [run] at h ⊢
      split at h
      · exact h
      · obtain ⟨⟨item, rest⟩, hread, h⟩ := Option.bind_eq_some_iff.1 h
        obtain ⟨b₂, hpush, h⟩ := Option.bind_eq_some_iff.1 h
        refine Option.bind_eq_some_iff.2 ⟨_, hread, Option.bind_eq_some_iff.2 ⟨_, hpush, ?_⟩⟩
        exact ih h (Nat.le_add_left _ _)

/-- Every item takes a character, and so no more of them are read than there are characters. -/
theorem run_of_length {fuel fuel' : Nat} (h : run fuel b cs = some b') (hlen : cs.length < fuel') :
    run fuel' b cs = some b' := by
  induction fuel generalizing b cs fuel' with
  | zero => cases h
  | succ fuel ih =>
      obtain ⟨fuel', rfl⟩ : ∃ more, fuel' = more + 1 := ⟨fuel' - 1, by omega⟩
      rcases run_cases h with ⟨hnil, rfl⟩ | ⟨item, rest, next, hread, hpush, hrun⟩
      · exact run_of_blank hnil
      · rw [run_of_read hread hpush]
        have hle := afterBlanks_length b.verbose cs
        cases hcs : afterBlanks b.verbose cs with
        | nil =>
            rw [hcs] at hread
            cases hread
        | cons c rest' =>
            rw [hcs] at hread hle
            have hrest := Tracks.length_read hread
            rw [List.length_cons] at hle
            exact ih hrun (by omega)

/-- No item that is read is empty, since the same would be read for ever. -/
theorem Reads.ne_of_read (h : Reads b cs b' []) (hread : Item.read false cs = some (item, rest)) :
    rest ≠ cs := by
  rintro rfl
  generalize hend : ([] : List Char) = last at h
  induction h with
  | done =>
      subst hend
      cases hread
  | item hread' _ _ _ ih =>
      rw [hread] at hread'
      obtain ⟨rfl, rfl⟩ := Prod.mk.inj (Option.some.inj hread')
      exact ih hread hend

theorem Reads.advance (h : Reads b cs b' []) (hbare : Bare cs)
    (hread : Item.read false cs = some (item, rest)) : rest.length < cs.length ∧ Bare rest := by
  have hne := h.ne_of_read hread
  cases h with
  | done => cases hread
  | item hread' hitem hpush h =>
      rw [hread] at hread'
      obtain ⟨rfl, rfl⟩ := Prod.mk.inj (Option.some.inj hread')
      rcases hbare.marks_item hread hitem h.isSome_read with ⟨-, rfl, hmarks⟩ | ⟨-, ms, hmarks, hcs, -⟩
      · have hmarks' : Token.marks _ = [Marked.opener none] ++ Token.marks rest := hmarks
        exact ⟨Nat.lt_succ_self _, hbare.of_marks hmarks'⟩
      · refine ⟨?_, hbare.of_marks hmarks⟩
        cases hms : Marked.chars ms with
        | nil =>
            rw [hms, List.nil_append] at hcs
            exact absurd hcs.symm hne
        | cons c chars =>
            rw [hcs, hms, List.cons_append, List.length_cons, List.length_append]
            omega

/-- What is a pattern by itself is read in parentheses as it is read from the start of a pattern. -/
theorem Reads.mirrored {fuel : Nat} (hrun : run fuel own cs = some own') (hclosed : own'.outer = [])
    (hsteady : own.Steady) (hx : x.Bears own) (hb : Mirrors k outer x b)
    (hbare : Bare (cs ++ ')' :: next)) (h : Reads b (cs ++ ')' :: next) b' []) :
    ∃ x' b₂, run (cs.length + 1) x cs = some x' ∧ x'.outer = [] ∧ Reads x cs x' [] ∧
      Reads b (cs ++ ')' :: next) b₂ (')' :: next) ∧ Reads b₂ (')' :: next) b' [] ∧
        Mirrors k outer x' b₂ := by
  induction fuel generalizing own x b cs with
  | zero => cases hrun
  | succ fuel ih =>
      have hcases := run_cases hrun
      rw [hsteady.verbose, afterBlanks_false] at hcases
      have hxsteady := hx.steady hsteady
      rcases hcases with ⟨rfl, rfl⟩ | ⟨item, rest, ownNext, hread, hpush, hrun⟩
      · refine ⟨x, b, ?_, hx.outer_eq_nil hclosed, .done _ _, .done _ _, h, hb⟩
        simp [run, hxsteady.verbose]
      · have hwhole := read_close hread next
        obtain ⟨hlt, hbare'⟩ := h.advance hbare hwhole
        rw [List.length_append, List.length_append, Nat.add_lt_add_iff_right] at hlt
        obtain ⟨b₁, hpush', hitem, h⟩ := h.peel hwhole
        obtain ⟨x₁, hxpush, hx₁⟩ := hx.push? hpush
        have hown := pushes_of_push? hpush
        have hmirrors := (pushes_of_push? hxpush).mirrors hpush' (Item.flat_of_read hread) hb
        obtain ⟨x', b₂, hxrun, hxclosed, hxreads, hto, hfrom, hb₂⟩ :=
          ih hrun (hown.steady hitem hsteady) hx₁ hmirrors hbare' h
        refine ⟨x', b₂, ?_, hxclosed, .item hread hitem (pushes_of_push? hxpush) hxreads,
          .item hwhole hitem hpush' hto, hfrom, hb₂⟩
        rw [run_of_read (by rw [hxsteady.verbose]; exact hread) hxpush]
        exact run_mono hxrun hlt

end Builder

end Patchwork.Regex
