import Patchwork.Proofs.Regex.Enclosing
import Patchwork.Proofs.SubMatch

namespace Patchwork

theorem Regex.Cursor.at?_zero (text : String) : Cursor.at? text 0 = some (.start text) := by
  unfold Cursor.at? Cursor.start
  cases text.toList <;> simp [Cursor.seek?]

namespace ModeFlags

open Regex Regex.Builder

theorem exists_lead (flags : ModeFlags) : ∃ lead k, IsLead lead ∧
    Modes.initial.behind lead = { flags.modes with unicode := true } ∧ k ≤ flags.directive.toList.length ∧
      ∀ fuel cs, run (fuel + k) .empty (flags.directive.toList ++ cs) = run fuel (ahead lead) cs := by
  rcases flags.read_directive with ⟨hnone, hmodes⟩ | ⟨changes, hterse, hmodes, hread⟩
  · refine ⟨[], 0, .nothing, hmodes, Nat.zero_le _, fun fuel cs => ?_⟩
    rw [hnone]
    rfl
  · have hsome : flags.directive.toList ≠ [] := fun hnil => by
      have hempty := hread []
      rw [hnil] at hempty
      cases hempty
    refine ⟨[.flags changes], 1, .directive changes, hmodes, List.length_pos_iff.2 hsome, fun fuel cs => ?_⟩
    have hpush : Builder.empty.push? (.directive changes) = some (ahead [.flags changes]) := by
      simp only [push?, Builder.empty, hterse]
      rfl
    exact run_of_read (hread cs) hpush

theorem toList_anchored (directive body : String) : (directive ++ "\\A(?:" ++ body ++ ")").toList =
    directive.toList ++ '\\' :: 'A' :: '(' :: '?' :: ':' :: (body.toList ++ [')']) := by
  simp

end ModeFlags

namespace CompiledExpression

open Regex Regex.Builder

variable {c : CompiledExpression}

/-- The two patterns of a form have the form of the body in common, which the one has behind an empty form at
most and the other behind the anchor. -/
theorem Patterns.exists_anchors (h : c.Patterns) : ∃ f g b : Form, f.Pads b ∧ g.Anchors b ∧
    c.regex.machine = (Form.capture 0 f).machine ∧ c.regex.groupCount = f.lastGroup + 1 ∧
      c.anchored.machine = (Form.capture 0 g).machine ∧ c.anchored.groupCount = g.lastGroup + 1 := by
  obtain ⟨flags, hflags⟩ := h.directive
  obtain ⟨lead, k, hlead, -, -, hskip⟩ := flags.exists_lead
  obtain ⟨own, f, after, hown, hclosed, -, hf, hregex⟩ := exists_run_of_compile? h.regex
  obtain ⟨whole, g, after', hwhole, hwholeClosed, -, hg, hanchored⟩ := exists_run_of_compile? h.anchored
  rw [pattern, String.toList_append, hflags] at hown
  rw [hflags, ModeFlags.toList_anchored] at hwhole
  have hown := run_mono hown (Nat.le_add_right _ k)
  have hwhole := run_mono hwhole (Nat.le_add_right _ (2 + k))
  rw [hskip] at hown
  rw [← Nat.add_assoc, hskip, run_within] at hwhole
  obtain ⟨l, hleads, hlevel⟩ := (sheathes_within lead).leads hlead hown hclosed hwhole hwholeClosed
  have htree : whole.level.finish = l.anchored lead := by rw [hlevel]; rfl
  rw [htree] at hg
  obtain ⟨b, g', after'', hpads, hanchors, hg'⟩ := hleads.anchors hlead hf
  rw [hg] at hg'
  cases hg'
  exact ⟨f, g, b, hpads, hanchors, by rw [hregex], by rw [hregex], by rw [hanchored], by rw [hanchored]⟩

theorem Patterns.find?_anchored_eq_some (h : c.Patterns) {text : String} {spans : List (Option Span)} :
    c.anchored.find? text 0 = some spans ↔
      c.regex.find? text 0 = some spans ∧ ∃ span, spans[0]?.join = some span ∧ span.start = 0 := by
  obtain ⟨f, g, b, hpads, hanchors, hmachine, hcount, hmachine', hcount'⟩ := h.exists_anchors
  have hcounts : c.anchored.groupCount = c.regex.groupCount := by
    rw [hcount, hcount', hanchors.lastGroup_eq, hpads.lastGroup_eq]
  have hspans : ∀ t, c.anchored.spans t = c.regex.spans t := fun t => by
    rw [Regex.spans, Regex.spans, hcounts]
  have hzero : ∀ t, (c.regex.spans t)[0]?.join = groupSpan t.groups 0 := fun t => by
    rw [Regex.spans, hcount]
    simp
  have hsearch : ∀ t, c.anchored.searchFrom (.start text) = some t ↔
      c.regex.searchFrom (.start text) = some t ∧ ∃ span, groupSpan t.groups 0 = some span ∧ span.start = 0 := by
    intro t
    rw [Regex.searchFrom, Regex.searchFrom, hmachine, hmachine']
    exact hanchors.runFrom_eq_some_iff hpads
  simp only [Regex.find?, Cursor.at?_zero, Option.bind_eq_bind, Option.bind_some]
  constructor
  · intro hfind
    obtain ⟨t, ht, heq⟩ := Option.bind_eq_some_iff.1 hfind
    cases heq
    obtain ⟨hfound, hstart⟩ := (hsearch t).1 ht
    exact ⟨Option.bind_eq_some_iff.2 ⟨t, hfound, by rw [hspans]; rfl⟩, by rwa [hspans, hzero]⟩
  · rintro ⟨hfind, hstart⟩
    obtain ⟨t, ht, heq⟩ := Option.bind_eq_some_iff.1 hfind
    cases heq
    rw [hzero] at hstart
    exact Option.bind_eq_some_iff.2 ⟨t, (hsearch t).2 ⟨ht, hstart⟩, by rw [hspans]; rfl⟩

end CompiledExpression

namespace Registry

variable {kind : Kind} {r : Registry} {s t : Store} {source : String} {c : CompiledExpression}

/-- Looking at the start of a text finds the match that a search finds if it starts there, with the same
groups and so with the same names and sub-matches, and it finds nothing else. -/
theorem lookingAt?_eq_some_iff {o : Options} (h : Reached kind o r s) (hkind : kind.source source)
    (hc : (r.compile source).run s = (.ok c, t)) (text : String) (m : Match) :
    c.lookingAt? text = some m ↔
      c.find? text = some m ∧ ∃ span, m.spanAt? 0 = some span ∧ span.start = 0 := by
  have hpatterns := (h.woven_of_compile hkind hc).patterns
  have hpos : 0 < c.groupCount := by
    obtain ⟨f, -, -, -, -, -, hcount, -⟩ := hpatterns.exists_anchors
    rw [← hpatterns.groupCount, hcount]
    exact Nat.succ_pos _
  have hspan : ∀ spans, (c.matchOf text spans).spanAt? 0 = spans[0]?.join := fun spans => by
    rw [Match.spanAt?_matchOf, if_pos hpos]
  simp only [CompiledExpression.lookingAt?, CompiledExpression.find?, CompiledExpression.findAt?,
    Option.map_eq_some_iff, hpatterns.find?_anchored_eq_some]
  constructor
  · rintro ⟨spans, ⟨hfind, hstart⟩, rfl⟩
    exact ⟨⟨spans, hfind, rfl⟩, by rwa [hspan]⟩
  · rintro ⟨⟨spans, hfind, rfl⟩, hstart⟩
    rw [hspan] at hstart
    exact ⟨spans, ⟨hfind, hstart⟩, rfl⟩

/-- The anchor holds for the second branch too, in verbose mode and behind a change of case. -/
theorem lookingAt?_branches :
    let w := (Definition.expression "a" "y").apply (withOptions ⟨.standard, 2⟩, .empty)
    let source := "(?x) x | (?i: ${a} ) z # end\n"
    Reached .tidy ⟨.standard, 2⟩ w.1 w.2 ∧ Tidy source ∧ ∃ c t m, (w.1.compile source).run w.2 = (.ok c, t) ∧
      c.lookingAt? "Yzx" = some m ∧ (m.subMatch? "a" 0).isSome ∧ (c.find? "wYz").isSome ∧
        c.lookingAt? "wYz" = none := by
  intro w source
  have hdefinitions : ∀ d ∈ [Definition.expression "a" "y"], d.Permitted .tidy :=
    List.forall_mem_singleton.2 (show Tidy "y" by decide +kernel)
  have hreached : Reached .tidy ⟨.standard, 2⟩ w.1 w.2 := reached_of_definitions _ hdefinitions
  have htidy : Tidy source := by decide +kernel
  have hok : ((w.1.compile source).run w.2).1.toOption.any fun c : CompiledExpression =>
      ((c.find? "Yzx").any fun m => decide ((m.subMatch? "a" 0).isSome ∧ m.spanAt? 0 = some ⟨0, 2⟩)) &&
        (c.find? "wYz").any fun m => decide (m.spanAt? 0 = some ⟨1, 3⟩) := by decide +kernel
  obtain ⟨c, t, hrun, hc⟩ := Compiling.exists_run_of_any hok
  obtain ⟨hfirst, hlater⟩ := (Bool.and_eq_true _ _).mp hc
  obtain ⟨m, hm, hmatch⟩ := (Option.any_eq_true _ _).1 hfirst
  obtain ⟨m', hm', hmatch'⟩ := (Option.any_eq_true _ _).1 hlater
  obtain ⟨hsub, hspan⟩ := of_decide_eq_true hmatch
  have hspan' := of_decide_eq_true hmatch'
  have hagree := lookingAt?_eq_some_iff hreached htidy hrun
  refine ⟨hreached, htidy, c, t, m, hrun, (hagree _ m).2 ⟨hm, _, hspan, rfl⟩, hsub, by simp [hm'], ?_⟩
  refine Option.eq_none_iff_forall_ne_some.2 fun found hfound => ?_
  obtain ⟨hfind, span, hstart, hzero⟩ := (hagree _ found).1 hfound
  rw [hm'] at hfind
  cases hfind
  rw [hspan'] at hstart
  cases hstart
  cases hzero

end Registry

end Patchwork
