import Patchwork.Match
import Patchwork.Proofs.Branches
import Patchwork.Proofs.Regex.Attempts

namespace Patchwork

open Token Marked

namespace ModeFlags

open Regex Regex.Builder

def modes (flags : ModeFlags) : Modes :=
  ⟨flags.caseInsensitive, flags.multiLine, flags.dotAll, false, flags.unicode, false⟩

/-- No directive switches anything off, and so Unicode stays on as it is at the start. -/
theorem read_directive (flags : ModeFlags) :
    flags.directive = "" ∧ Modes.initial = { flags.modes with unicode := true } ∨
      ∃ changes, FlagChange.verboseAfter changes false = false ∧
        Modes.initial.changeAll changes = { flags.modes with unicode := true } ∧
          ∀ cs, Item.read false (flags.directive.toList ++ cs) = some (.directive changes, cs) := by
  obtain ⟨i, m, s, u⟩ := flags
  cases i <;> cases m <;> cases s <;> cases u
  · exact .inl ⟨rfl, rfl⟩
  all_goals exact .inr ⟨_, by rfl, rfl, fun _ => rfl⟩

/-- Behind a directive a pattern is read as from its start. -/
theorem exists_run_body {flags : ModeFlags} {fuel : Nat} {b' : Builder} {cs : List Char}
    (h : run fuel .empty (flags.directive.toList ++ cs) = some b') :
    ∃ fuel' b, b.Steady ∧ Builder.empty.Bears b ∧ b.captures = 0 ∧ b.Above 0 [] 0 ∧
      run fuel' b cs = some b' := by
  rcases flags.read_directive with ⟨hnone, -⟩ | ⟨changes, hterse, -, hread⟩
  · rw [hnone] at h
    exact ⟨fuel, .empty, steady_empty, ⟨.refl _, .nil, rfl, rfl⟩, rfl, above_empty, h⟩
  · obtain ⟨fuel', b, hpush, hrun⟩ := exists_of_run rfl h (hread cs)
    have habove := hpush.above trivial (by simp) above_empty
    have hsteady := hpush.steady hterse steady_empty
    have hcaptures := hpush.captures_other (by simp)
    cases hpush
    exact ⟨fuel', _, hsteady, ⟨⟨1, rfl⟩, .nil, hsteady.verbose.symm, rfl⟩, hcaptures, habove, hrun⟩

end ModeFlags

namespace CompiledExpression

open Regex Regex.Builder

variable {c : CompiledExpression}

theorem Patterns.isPattern (h : c.Patterns) : c.IsPattern := by
  obtain ⟨flags, hflags⟩ := h.directive
  obtain ⟨b', form, after, hrun, houter, -⟩ := exists_run_of_compile? h.regex
  rw [pattern, String.toList_append, hflags] at hrun
  obtain ⟨fuel, b, hsteady, hbears, -, -, hrun⟩ := ModeFlags.exists_run_body hrun
  exact ⟨fuel, b, b', hsteady, hbears, hrun, houter⟩

/-- The tree is one for which the body has been read, in parentheses or not, after parts that open no
capture group. -/
structure ReadAs (c : CompiledExpression) (tree : Tree) : Prop where
  exists_reads : ∃ tail depth b b', (tail = [] ∨ tail = [')']) ∧ b.Above 0 [] depth ∧ b.captures = 0 ∧
    Reads b (c.body.toList ++ tail) b' [] ∧ b'.outer = [] ∧ b'.level.finish = tree

def Runs (c : CompiledExpression) (r : Regex) : Prop :=
  ∃ tree form after, c.ReadAs tree ∧ Tree.parse? r.pattern.toList = some tree ∧
    tree.resolve? .initial = some (form, after) ∧ r.machine = (Form.capture 0 form).machine ∧
      r.groupCount = form.lastGroup + 1

theorem Patterns.reads_body (h : c.Patterns) (hterse : (Tree.parse? c.pattern.toList).all Tree.isTerse) :
    ∃ b b' form after, b.Steady ∧ b.captures = 0 ∧ b.Above 0 [] 0 ∧ Reads b c.body.toList b' [] ∧
      b'.outer = [] ∧ Tree.parse? c.pattern.toList = some b'.level.finish ∧
        b'.level.finish.resolve? .initial = some (form, after) ∧
          c.regex = ⟨c.pattern, (Form.capture 0 form).machine, form.lastGroup + 1⟩ := by
  obtain ⟨flags, hflags⟩ := h.directive
  obtain ⟨b', form, after, hrun, houter, hparse, hresolve, hregex⟩ := exists_run_of_compile? h.regex
  have hsettled := settled_of_terse hterse hparse houter hresolve
  rw [pattern, String.toList_append, hflags] at hrun
  obtain ⟨fuel, b, hsteady, -, hcaptures, habove, hrun⟩ := ModeFlags.exists_run_body hrun
  exact ⟨b, b', form, after, hsteady, hcaptures, habove, reads_of_run hsteady hrun hsettled, houter, hparse,
    hresolve, hregex⟩

theorem Patterns.runs_regex (h : c.Patterns) (hterse : (Tree.parse? c.pattern.toList).all Tree.isTerse) :
    c.Runs c.regex := by
  obtain ⟨b, b', form, after, -, hcaptures, habove, hreads, houter, hparse, hresolve, hregex⟩ :=
    h.reads_body hterse
  have hread : c.ReadAs b'.level.finish :=
    ⟨[], 0, b, b', .inl rfl, habove, hcaptures, by rwa [List.append_nil], houter, rfl⟩
  rw [hregex]
  exact ⟨_, form, after, hread, hparse, hresolve, rfl, rfl⟩

theorem Patterns.runs_anchored (h : c.Patterns) (hterse : (Tree.parse? c.pattern.toList).all Tree.isTerse) :
    c.Runs c.anchored := by
  obtain ⟨flags, hflags⟩ := h.directive
  obtain ⟨own, own', -, -, -, -, -, hown, -⟩ := h.reads_body hterse
  obtain ⟨b', form, after, hrun, houter, hparse, hresolve, hregex⟩ := exists_run_of_compile? h.anchored
  have htext : (c.directive ++ "\\A(?:" ++ c.body ++ ")").toList =
      flags.directive.toList ++ '\\' :: 'A' :: '(' :: '?' :: ':' :: (c.body.toList ++ [')']) := by
    simp [hflags]
  rw [htext] at hrun
  obtain ⟨fuel, b, hsteady, -, hcaptures, habove, hrun⟩ := ModeFlags.exists_run_body hrun
  have hstart : ∀ cs, Item.read false ('\\' :: 'A' :: cs) = some (.piece (.assertion .textStart), cs) :=
    fun _ => rfl
  have hopen : ∀ cs, Item.read false ('(' :: '?' :: ':' :: cs) = some (.opening (.scoped []), cs) :=
    fun _ => rfl
  have hclose : Item.read false [')'] = some (.closing, []) := rfl
  -- behind the directive are read the anchor, an opener, the body, and what closes the group
  obtain ⟨fuel, b₁, hpush₁, hrun⟩ := exists_of_run hsteady.verbose hrun (hstart _)
  have hsteady₁ := hpush₁.steady trivial hsteady
  obtain ⟨fuel, b₂, hpush₂, hrun⟩ := exists_of_run hsteady₁.verbose hrun (hopen _)
  have hsteady₂ := hpush₂.steady rfl hsteady₁
  have habove₂ := hpush₂.above trivial (by simp) (hpush₁.above rfl (by simp) habove)
  have hcaptures₂ := (hpush₂.captures_other (by simp)).trans (hpush₁.captures_other (by simp))
  obtain ⟨fuel, b₃, hreads, hrun, hsteady₃⟩ := hown.carry hsteady₂ hrun
  obtain ⟨fuel, b₄, hpush₃, hrun⟩ := exists_of_run hsteady₃.verbose hrun hclose
  have hlast : b' = b₄ := by
    cases fuel with
    | zero => cases hrun
    | succ fuel =>
        rcases run_cases hrun with ⟨-, rfl⟩ | ⟨item, rest, b₅, hread, -⟩
        · rfl
        · rw [(hpush₃.steady trivial hsteady₃).verbose, afterBlanks_false] at hread
          cases hread
  subst hlast
  have hreads' := hreads.trans (.item hclose trivial hpush₃ (.done _ _))
  have hread : c.ReadAs b'.level.finish :=
    ⟨[')'], 1, b₂, b', .inr rfl, habove₂, hcaptures₂.trans hcaptures, hreads', houter, rfl⟩
  rw [hregex]
  exact ⟨_, form, after, hread, hparse, hresolve, rfl, rfl⟩

theorem Patterns.runs (h : c.Patterns) (hterse : (Tree.parse? c.pattern.toList).all Tree.isTerse) {r : Regex}
    (hr : r = c.regex ∨ r = c.anchored) : c.Runs r := by
  rcases hr with rfl | rfl
  · exact h.runs_regex hterse
  · exact h.runs_anchored hterse

variable {tree : Tree} {r : Regex} {front back : List Marked} {vs : List CompiledExpression}

theorem ReadAs.exists_bare (h : c.ReadAs tree) (hsound : c.Sound)
    (halike : ∀ s ∈ classes (marks c.body.toList), ClosesAlike s) :
    ∃ cs more depth b b', Bare cs ∧ marks cs = marks c.body.toList ++ more ∧ b.Above 0 [] depth ∧
      b.captures = 0 ∧ Reads b cs b' [] ∧ b'.outer = [] ∧ b'.level.finish = tree := by
  obtain ⟨tail, depth, b, b', htail, habove, hcaptures, hreads, houter, htree⟩ := h.exists_reads
  have hplain : Ends tail ∧ marks tail = plain tail := by
    rcases htail with rfl | rfl
    · exact ⟨ends_nil, marks_nil⟩
    · exact ⟨ends_close [], (isClosed_of_ordinary (by decide)).2⟩
  have hwhole : marks (c.body.toList ++ tail) = marks c.body.toList ++ plain tail := by
    rw [hsound.tight.marks_append _ hplain.1, hplain.2]
  refine ⟨_, _, depth, b, b', ⟨?_, ?_⟩, hwhole, habove, hcaptures, hreads, houter, htree⟩
  · rw [hwhole, classes_append, classes_plain, List.append_nil]
    exact halike
  · rw [hwhole, names_append, names_plain, List.append_nil]
    exact hsound.unnamed

theorem ReadAs.lies_block (h : c.ReadAs tree) (hsound : c.Sound)
    (halike : ∀ s ∈ classes (marks c.body.toList), ClosesAlike s)
    (hvs : ∀ v ∈ vs, v.Sound ∧ v.IsPattern) (hne : vs ≠ []) (hlen : vs.length ≠ 1)
    (hmarks : marks c.body.toList = front ++ block (vs.map fun v => marks v.body.toList) ++ back) :
    tree.Lies (.ofBlock (1 + (Marked.names front).length) vs) .outside := by
  obtain ⟨cs, more, depth, b, b', hbare, hwhole, habove, hcaptures, hreads, -, rfl⟩ :=
    h.exists_bare hsound halike
  rw [hmarks, List.append_assoc _ back] at hwhole
  exact hreads.lies_block hvs hne hlen habove hcaptures hbare hwhole

/-- Where a search has ended, the group of a block with several variants has the span of one of them. -/
theorem Runs.covered (h : c.Runs r) (hsound : c.Sound)
    (halike : ∀ s ∈ classes (marks c.body.toList), ClosesAlike s)
    (hvs : ∀ v ∈ vs, v.Sound ∧ v.IsPattern) (hne : vs ≠ []) (hlen : vs.length ≠ 1)
    (hmarks : marks c.body.toList = front ++ block (vs.map fun v => marks v.body.toList) ++ back)
    {cursor : Cursor} {t : Task} (ht : r.searchFrom cursor = some t) {span : Span}
    (hspan : (r.spans t)[1 + (Marked.names front).length]?.join = some span) :
    ∃ slot ∈ (Choice.ofBlock (1 + (Marked.names front).length) vs).slots,
      (r.spans t)[slot]?.join = some span := by
  obtain ⟨tree, form, after, htree, -, hresolve, hmachine, hcount⟩ := h
  have hlies := htree.lies_block hsound halike hvs hne hlen hmarks
  exact covered_of_searchFrom hmachine hcount (Form.lies_of_resolves (Tree.resolves_of_resolve? hresolve) hlies)
    (Choice.free_ofBlock_of_lt (by omega)) ht hspan

end CompiledExpression

end Patchwork
