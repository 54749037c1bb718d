import Patchwork.Proofs.Decomposition
import Patchwork.Proofs.Regex.Intervals

namespace Patchwork

open Token Marked

namespace Regex.Builder

variable {b b' : Builder} {cs : List Char} {v : CompiledExpression}

theorem Reads.confines {front back : List Marked} {depth j : Nat} (hv : v.Sound) (hpattern : v.IsPattern)
    (hb : b.Above 0 [] depth) (hcaptures : b.captures = 0) (hbare : Bare cs)
    (hmarks : marks cs = front ++ Marked.enclosed (marks v.body.toList) ++ back) (h : Reads b cs b' [])
    (hclosed : b'.outer = []) (hlo : 1 + (Marked.names front).length < j)
    (hhi : j < 1 + (Marked.names front).length + v.groupCount) :
    b'.level.finish.Confines (1 + (Marked.names front).length) j := by
  have hgroup : marks (group v.body.toList) = Marked.enclosed (marks v.body.toList) := hv.tight.marks_group
  rw [← hgroup] at hmarks
  obtain ⟨b₁, -, hfrom, hbare₁, -, hcount⟩ := h.split_text hbare hgroup hmarks
  obtain ⟨b₂, t, ht, hrest, hlevel, -⟩ := hfrom.enclosed hv hpattern hbare₁
  have hnumber : b₁.captures + 1 = 1 + (Marked.names front).length := by omega
  rw [hnumber] at hlevel
  have hpart := hrest.mem_parts_last hclosed hlevel
  refine Tree.confines_of_mem_parts (h.distinct (hb.distinct hcaptures)).nodup_finish hpart ?_
  rw [Tree.groups_shift]
  exact List.mem_map.2 ⟨j - (1 + (Marked.names front).length), (ht.mem_groups _).2 (by omega), by omega⟩

end Regex.Builder

namespace CompiledExpression

open Regex

variable {kind : Kind} {c v : CompiledExpression} {start : Nat}

theorem ReadAs.confines {tree : Tree} {j : Nat} (h : c.ReadAs tree) (hsound : c.Sound)
    (halike : ∀ s ∈ classes (marks c.body.toList), ClosesAlike s) (hv : v.Sound) (hpattern : v.IsPattern)
    (hholds : c.Holds start v) (hlo : start < j) (hhi : j < start + v.groupCount) :
    tree.Confines start j := by
  obtain ⟨front, back, hmarks, rfl⟩ := hholds
  obtain ⟨cs, more, depth, b, b', hbare, hwhole, habove, hcaptures, hreads, houter, rfl⟩ :=
    h.exists_bare hsound halike
  rw [hmarks, List.append_assoc _ back] at hwhole
  exact hreads.confines hv hpattern habove hcaptures hbare hwhole houter hlo hhi

theorem Places.descend {m s : Match} {path : List (String × Nat)} (h : c.Places start m.expression)
    (hm : m.expression.Woven kind) (horderly : kind.Orderly) (hs : m.descend? path = some s)
    (hne : path ≠ []) : c.Holds (start + (m.localStarts path).sum) s.expression := by
  induction path generalizing m start with
  | nil => exact absurd rfl hne
  | cons step path ih =>
      obtain ⟨id, k⟩ := step
      obtain ⟨u, hu, hs⟩ := Option.bind_eq_some_iff.1 hs
      obtain ⟨a, vs, i, ha, hvs, hi, hstart, -⟩ := Match.window?_of_subMatch? hu
      have hwoven := hm.variants hvs
      have hholds := h.holds (hm.blockAt horderly ha hvs).1 (fun v hv => (hwoven v hv).sound horderly) hi
      have hsum : (m.localStarts ((id, k) :: path)).sum = slot a vs i + (u.localStarts path).sum := by
        simp [Match.localStarts, hstart, hu]
      rw [hsum, ← Nat.add_assoc]
      cases path with
      | nil =>
          obtain rfl := Option.some.inj hs
          exact hholds
      | cons next path => exact ih hholds.places (hwoven _ (List.mem_of_getElem? hi)) hs (by simp)

end CompiledExpression

namespace Match

open CompiledExpression Regex

variable {kind : Kind} {c : CompiledExpression} {text : String} {r : Regex} {root m s : Match}
  {path : List (String × Nat)}

/-- The groups of the match that took part, and the sub-matches that are taken from it, lie where the
predicate says. -/
structure Keeps (m : Match) (p : Span → Prop) : Prop where
  groups : ∀ i span, m.spanAt? i = some span → p span
  subs : ∀ id k s, m.subMatch? id k = some s → p s.range

theorem keeps_of_groups (hm : m.expression.Woven kind) {p : Span → Prop}
    (h : ∀ i span, m.spanAt? i = some span → p span) : m.Keeps p := by
  refine ⟨h, fun id k s hs => ?_⟩
  obtain ⟨a, vs, -, hvs, htook, hblock⟩ := subMatch?_eq_some hs
  obtain ⟨i, hi, hwindow, hfirst, -⟩ := block?_eq_some hblock htook
  obtain ⟨-, -, -, hspans⟩ := window?_eq_some hwindow
  obtain ⟨span, hspan⟩ := participated_iff.1 hfirst
  refine h (slot a vs i) _ ?_
  rw [range_eq, hspans 0 (hm.variants hvs _ (List.mem_of_getElem? hi)).groupCount_pos, Nat.add_zero, hspan,
    Option.getD_some]

theorem woven_of_descend? (hm : m.expression.Woven kind) (h : m.descend? path = some s) :
    s.expression.Woven kind := by
  induction path generalizing m with
  | nil => exact Option.some.inj h ▸ hm
  | cons step path ih =>
      obtain ⟨u, hu, h⟩ := Option.bind_eq_some_iff.1 h
      obtain ⟨vs, hvs, hmem⟩ := mem_variants_of_subMatch? hu
      exact ih (hm.variants hvs _ hmem) h

theorem spanAt?_of_descend? (hm : m.expression.Woven kind)
    (hlength : m.spans.length = m.expression.groupCount) (h : m.descend? path = some s) :
    s.spans.length = s.expression.groupCount ∧
      ∀ i < s.expression.groupCount, s.spanAt? i = m.spanAt? ((m.localStarts path).sum + i) := by
  obtain ⟨htext, hle, hspans, -⟩ := descend?_eq_some hm hlength h
  have hwindow : m.window? s.expression (m.localStarts path).sum = some s := by
    rw [window?, if_pos hle, ← hspans, ← htext]
  exact (window?_eq_some hwindow).2.2

theorem range_encloses_self {span : Span} (h : m.spanAt? 0 = some span) : m.range.Encloses span := by
  rw [range_eq, h, Option.getD_some]
  exact ⟨Nat.le_refl _, Nat.le_refl _⟩

structure Follows (root : Match) (start : Nat) (m : Match) (form : Form) (gs : List (Nat × Span)) : Prop where
  way : ∃ c₀ c₁, form.Traces c₀ c₁ gs ∧ root.range = ⟨c₀.offset, c₁.offset⟩
  spanAt : ∀ i span, m.spanAt? i = some span → i < m.expression.groupCount ∧
    ∀ j ≤ i, m.spanAt? j = groupSpan ((0, root.range) :: gs) (start + j)

namespace Follows

variable {start i : Nat} {form : Form} {gs : List (Nat × Span)} {span : Span}

theorem encloses (h : Follows root start m form gs) (hi : m.spanAt? i = some span) :
    span.start ≤ span.stop ∧ root.range.Encloses span := by
  obtain ⟨c₀, c₁, hway, hrange⟩ := h.way
  rw [(h.spanAt i span hi).2 i (Nat.le_refl _)] at hi
  rw [hrange] at hi ⊢
  rcases List.mem_cons.1 (mem_of_groupSpan hi) with heq | hmem
  · obtain ⟨-, rfl⟩ := Prod.mk.inj heq
    exact ⟨hway.between.le, Nat.le_refl _, Nat.le_refl _⟩
  · obtain ⟨hfirst, hle, hlast⟩ := hway.between.spans _ hmem
    exact ⟨hle, hfirst, hlast⟩

/-- The range of a sub-match is the latest span of the group at which its groups begin. -/
theorem inner (h : Follows root start m form gs) (hstart : start ≠ 0) (hi : m.spanAt? i = some span) :
    groupSpan gs (start + i) = some span ∧ ∀ outer, groupSpan gs start = some outer → m.range = outer := by
  have hback : ∀ j ≤ i, m.spanAt? j = groupSpan gs (start + j) := fun j hj => by
    rw [(h.spanAt i span hi).2 j hj, groupSpan_cons, if_neg (by omega)]
  refine ⟨hback i (Nat.le_refl _) ▸ hi, fun outer houter => ?_⟩
  rw [range_eq, hback 0 (Nat.zero_le _), Nat.add_zero, houter, Option.getD_some]

theorem encloses_or_before (h : Follows root start m form gs) (hstart : start ≠ 0)
    (hconfines : ∀ i, 0 < i → i < m.expression.groupCount → form.Confines start (start + i))
    (hi : m.spanAt? i = some span) : m.range.Encloses span ∨ span.stop ≤ m.range.start := by
  rcases Nat.eq_zero_or_pos i with rfl | hpos
  · exact .inl (range_encloses_self hi)
  obtain ⟨c₀, c₁, hway, -⟩ := h.way
  obtain ⟨hgroup, hrange⟩ := h.inner hstart hi
  obtain ⟨outer, houter, hplace⟩ :=
    hway.trails (hconfines i hpos (h.spanAt i span hi).1) (by omega) span hgroup
  rwa [hrange outer houter]

theorem encloses_of_passes (h : Follows root start m form gs) (hstart : start ≠ 0)
    (hconfines : ∀ i, 0 < i → i < m.expression.groupCount → form.Confines start (start + i))
    (honce : form.passes start ≤ 1) (hi : m.spanAt? i = some span) : m.range.Encloses span := by
  rcases Nat.eq_zero_or_pos i with rfl | hpos
  · exact range_encloses_self hi
  obtain ⟨c₀, c₁, hway, -⟩ := h.way
  obtain ⟨hgroup, hrange⟩ := h.inner hstart hi
  obtain ⟨outer, houter, hencloses⟩ :=
    hway.encloses_of_passes (hconfines i hpos (h.spanAt i span hi).1) (by omega) honce hgroup
  rwa [hrange outer houter]

end Follows

theorem Found.exists_follows (h : root.Found c text r) (hc : c.Woven kind) (hm : root.descend? path = some m) :
    ∃ tree form after gs, Tree.parse? r.pattern.toList = some tree ∧
      tree.resolve? .initial = some (form, after) ∧ Follows root (root.localStarts path).sum m form gs := by
  obtain ⟨hr, cursor, t, ht, rfl⟩ := h.exists_search
  have hcompiled : ∃ pattern, compile? pattern = some r := by
    rcases hr with rfl | rfl
    · exact ⟨_, hc.patterns.regex⟩
    · exact ⟨_, hc.patterns.anchored⟩
  obtain ⟨pattern, hcompiled⟩ := hcompiled
  obtain ⟨b, form, after, -, -, hparse, hresolve, hregex⟩ := exists_run_of_compile? hcompiled
  have hpattern : Tree.parse? r.pattern.toList = some b.level.finish := by
    rw [hregex]
    exact hparse
  have hcount : r.groupCount = form.lastGroup + 1 := by rw [hregex]
  obtain ⟨c₀, gs, htraces, hgroups⟩ := exists_traces_of_searchFrom (by rw [hregex]) ht
  have hspan : ∀ i, (c.matchOf text (r.spans t)).spanAt? i =
      if i < c.groupCount ∧ i < r.groupCount then groupSpan t.groups i else none := by
    intro i
    rw [spanAt?_matchOf]
    by_cases hi : i < c.groupCount <;> by_cases hi' : i < r.groupCount <;> simp [Regex.spans, hi, hi']
  have hrange : (c.matchOf text (r.spans t)).range = ⟨c₀.offset, t.cursor.offset⟩ := by
    have hzero := hc.groupCount_pos
    rw [range_eq, hspan 0, if_pos ⟨hzero, by omega⟩, hgroups, groupSpan_cons, if_pos rfl, Option.getD_some]
  -- however deep the sub-match, its groups are those from one group of the whole on
  obtain ⟨hlength, hwindow⟩ := spanAt?_of_descend? hc (by simp [matchOf]) hm
  refine ⟨_, form, after, gs, hpattern, hresolve, ⟨c₀, t.cursor, htraces, hrange⟩, fun i span hi => ?_⟩
  have hlt : i < m.expression.groupCount := hlength ▸ lt_of_participated (participated_iff.2 ⟨_, hi⟩)
  rw [hwindow i hlt, hspan] at hi
  split at hi
  · refine ⟨hlt, fun j hj => ?_⟩
    rw [hwindow j (by omega), hspan, if_pos ⟨by omega, by omega⟩, hrange, hgroups]
  · cases hi

theorem Found.confines (h : root.Found c text r) (hc : c.Woven kind) (horderly : kind.Orderly)
    (hterse : (Tree.parse? c.pattern.toList).all Tree.isTerse)
    (halike : ∀ s ∈ classes (marks c.body.toList), ClosesAlike s) (hm : root.descend? path = some m)
    (hne : path ≠ []) {tree : Tree} (htree : Tree.parse? r.pattern.toList = some tree) :
    (root.localStarts path).sum ≠ 0 ∧ ∀ i, 0 < i → i < m.expression.groupCount →
      tree.Confines (root.localStarts path).sum ((root.localStarts path).sum + i) := by
  obtain ⟨hr, cursor, t, ht, rfl⟩ := h.exists_search
  obtain ⟨tree', form, after, hread, hparse, -⟩ := hc.patterns.runs hterse hr
  obtain rfl := Option.some.inj (htree.symm.trans hparse)
  have hwoven : m.expression.Woven kind := woven_of_descend? hc hm
  have hplaces : c.Places 0 (c.matchOf text (r.spans t)).expression := places_self c
  have hholds := hplaces.descend hc horderly hm hne
  rw [Nat.zero_add] at hholds
  refine ⟨?_, fun i hlo hhi => ?_⟩
  · obtain ⟨front, back, -, hstart⟩ := hholds
    omega
  · exact hread.confines (hc.sound horderly) halike (hwoven.sound horderly) hwoven.patterns.isPattern hholds
      (by omega) (by omega)

end Match

namespace Registry

open CompiledExpression Regex

variable {kind : Kind} {r : Registry} {s t : Store} {source : String} {c : CompiledExpression}

/-- All that a sub-match holds lies in the range of the match it was taken from. Where sources and
functions are orderly, verbose mode is never switched on and the engine closes every class where the lexer
does, it lies in the range of the sub-match itself, or ahead of it, as an earlier round of a repetition may
have left it; and it lies in that range where no match can pass through the group of the sub-match more than
once. -/
theorem keeps_of_descend {o : Options} (h : Reached kind o r s) (hkind : kind.source source)
    (hc : (r.compile source).run s = (.ok c, t)) {text : String} {engine : Regex} {root m : Match}
    (hroot : root.Found c text engine) {path : List (String × Nat)} (hm : root.descend? path = some m) :
    m.Keeps (fun span => span.start ≤ span.stop ∧ root.range.Encloses span) ∧
    (kind.Orderly → (Tree.parse? c.pattern.toList).all Tree.isTerse →
      (∀ s ∈ classes (marks c.body.toList), ClosesAlike s) →
      m.Keeps (fun span => m.range.Encloses span ∨ span.stop ≤ m.range.start) ∧
      ((∀ tree ∈ Tree.parse? engine.pattern.toList, tree.passes (root.localStarts path).sum ≤ 1) →
        m.Keeps m.range.Encloses)) := by
  have hwoven := h.woven_of_compile hkind hc
  obtain ⟨tree, form, after, gs, hparse, hresolve, hfollows⟩ := hroot.exists_follows hwoven hm
  have hm' : m.expression.Woven kind := by
    obtain ⟨spans, rfl⟩ := Match.IsFound.exists_spans ⟨engine, hroot⟩
    exact Match.woven_of_descend? hwoven hm
  refine ⟨Match.keeps_of_groups hm' fun i span => hfollows.encloses, fun horderly hterse halike => ?_⟩
  by_cases hpath : path = []
  · subst hpath
    obtain rfl : root = m := Option.some.inj hm
    exact ⟨Match.keeps_of_groups hm' fun i span hi => .inl (hfollows.encloses hi).2,
      fun _ => Match.keeps_of_groups hm' fun i span hi => (hfollows.encloses hi).2⟩
  obtain ⟨hstart, hconfines⟩ := hroot.confines hwoven horderly hterse halike hm hpath hparse
  have hresolves := Tree.resolves_of_resolve? hresolve
  have hform : ∀ i, 0 < i → i < m.expression.groupCount →
      form.Confines (root.localStarts path).sum ((root.localStarts path).sum + i) := fun i hlo hhi =>
    Form.confines_of_resolves hresolves (hconfines i hlo hhi)
  refine ⟨Match.keeps_of_groups hm' fun i span => hfollows.encloses_or_before hstart hform,
    fun honce => Match.keeps_of_groups hm' fun i span => ?_⟩
  have hpasses := Nat.le_trans (Form.passes_le_of_resolves hresolves) (honce tree hparse)
  exact hfollows.encloses_of_passes hstart hform hpasses

/-- The first block is left with a group of its first round, and the second, which is not repeated, with its
own. -/
theorem keeps_of_descend_twice :
    let w := (Definition.expression "a" "(p)|q").apply (withOptions ⟨.standard, 2⟩, .empty)
    let source := "${a}+y${a}"
    Reached .tidy ⟨.standard, 2⟩ w.1 w.2 ∧ Tidy source ∧
      ∃ c t root m₀ m₁, (w.1.compile source).run w.2 = (.ok c, t) ∧
        (Tree.parse? c.pattern.toList).all Tree.isTerse ∧
        (∀ s ∈ classes (marks c.body.toList), ClosesAlike s) ∧ c.find? "pqyp" = some root ∧
        root.descend? [("a", 0)] = some m₀ ∧ root.descend? [("a", 1)] = some m₁ ∧
        root.localStarts [("a", 1)] = [3] ∧
        (∀ tree ∈ Tree.parse? c.regex.pattern.toList, tree.passes 3 ≤ 1) ∧
        m₀.Keeps (fun span => span.start ≤ span.stop ∧ root.range.Encloses span) ∧
        m₀.Keeps (fun span => m₀.range.Encloses span ∨ span.stop ≤ m₀.range.start) ∧
        m₁.Keeps m₁.range.Encloses := by
  intro w source
  have hdefinitions : ∀ d ∈ [Definition.expression "a" "(p)|q"], d.Permitted .tidy :=
    List.forall_mem_singleton.2 (show Tidy "(p)|q" by decide +kernel)
  have hreached : Reached .tidy ⟨.standard, 2⟩ w.1 w.2 := reached_of_definitions _ hdefinitions
  have htidy : Tidy source := by decide +kernel
  have hok : ((w.1.compile source).run w.2).1.toOption.any fun c : CompiledExpression =>
      (c.find? "pqyp").any fun root => decide ((Tree.parse? c.pattern.toList).all Tree.isTerse ∧
        (∀ s ∈ classes (marks c.body.toList), ClosesAlike s) ∧
        (root.descend? [("a", 0)]).isSome ∧ (root.descend? [("a", 1)]).isSome ∧
        root.localStarts [("a", 1)] = [3] ∧
        ∀ tree ∈ Tree.parse? c.regex.pattern.toList, tree.passes 3 ≤ 1) := by decide +kernel
  obtain ⟨c, t, hrun, hc⟩ := Compiling.exists_run_of_any hok
  obtain ⟨root, hroot, hfound⟩ := (Option.any_eq_true _ _).1 hc
  obtain ⟨hterse, halike, hfirst, hsecond, hstarts, honce⟩ := of_decide_eq_true hfound
  obtain ⟨m₀, h₀⟩ := Option.isSome_iff_exists.1 hfirst
  obtain ⟨m₁, h₁⟩ := Option.isSome_iff_exists.1 hsecond
  obtain ⟨hwhole, hkeeps⟩ := keeps_of_descend hreached htidy hrun (.find hroot) h₀
  obtain ⟨-, hkeeps'⟩ := keeps_of_descend hreached htidy hrun (.find hroot) h₁
  obtain ⟨-, hinside⟩ := hkeeps' Kind.orderly_tidy hterse halike
  refine ⟨hreached, htidy, c, t, root, m₀, m₁, hrun, hterse, halike, hroot, h₀, h₁, hstarts, honce, hwhole,
    (hkeeps Kind.orderly_tidy hterse halike).1, hinside ?_⟩
  rw [hstarts]
  exact honce

/-- A group of a repeated block that took part in the first round only lies ahead of the range of the
sub-match. -/
theorem not_encloses_of_repeat :
    let w := (Definition.expression "a" "(p)|q").apply (withOptions ⟨.standard, 2⟩, .empty)
    ∃ c t root m span, (w.1.compile "${a}+").run w.2 = (.ok c, t) ∧ c.find? "pq" = some root ∧
      root.subMatch? "a" 0 = some m ∧ m.spanAt? 1 = some span ∧ ¬ m.range.Encloses span := by
  intro w
  have hok : ((w.1.compile "${a}+").run w.2).1.toOption.any fun c : CompiledExpression =>
      (c.find? "pq").any fun root => (root.subMatch? "a" 0).any fun m =>
        decide (m.spanAt? 1 = some ⟨0, 1⟩ ∧ ¬ m.range.Encloses ⟨0, 1⟩) := by decide +kernel
  obtain ⟨c, t, hrun, hc⟩ := Compiling.exists_run_of_any hok
  obtain ⟨root, hroot, hfound⟩ := (Option.any_eq_true _ _).1 hc
  obtain ⟨m, hm, hspans⟩ := (Option.any_eq_true _ _).1 hfound
  obtain ⟨hspan, houtside⟩ := of_decide_eq_true hspans
  exact ⟨c, t, root, m, _, hrun, hroot, hm, hspan, houtside⟩

end Registry

end Patchwork
