import Patchwork.Proofs.Pattern
import Patchwork.Proofs.Regex.Shifting

namespace Patchwork

open Token Marked

namespace Regex

def Choice.ofBlock (g : Nat) (vs : List CompiledExpression) : Choice where
  group := g
  slots := (List.range vs.length).map fun i => g + 1 + ((vs.take i).map (·.groupCount)).sum
  apart h := by
    obtain ⟨i, -, hi⟩ := List.mem_map.1 h
    omega

namespace Choice

variable {g i : Nat} {us ws : List CompiledExpression} {v : CompiledExpression}

theorem mem_slots_ofBlock (g : Nat) (us : List CompiledExpression) (v : CompiledExpression)
    (ws : List CompiledExpression) :
    g + 1 + (us.map (·.groupCount)).sum ∈ (ofBlock g (us ++ v :: ws)).slots := by
  refine List.mem_map.2 ⟨us.length, by simp, ?_⟩
  rw [List.take_left' rfl]

theorem free_ofBlock (hlo : g + 1 + (us.map (·.groupCount)).sum < i)
    (hhi : i < g + 1 + (us.map (·.groupCount)).sum + v.groupCount) :
    (ofBlock g (us ++ v :: ws)).Free i := by
  refine ⟨show i ≠ g by omega, fun hmem => ?_⟩
  obtain ⟨j, -, hj⟩ := List.mem_map.1 hmem
  by_cases hle : j ≤ us.length
  · have htake : ((us.take j).map (·.groupCount)).sum ≤ (us.map (·.groupCount)).sum := by
      conv => rhs; rw [← List.take_append_drop j us]
      rw [List.map_append, List.sum_append]
      exact Nat.le_add_right _ _
    rw [List.take_append_of_le_length hle] at hj
    omega
  · obtain ⟨k, rfl⟩ : ∃ k, j = us.length + (k + 1) := ⟨j - us.length - 1, by omega⟩
    rw [List.take_length_add_append, List.take_succ_cons, List.map_append, List.map_cons, List.sum_append,
      List.sum_cons] at hj
    omega

theorem free_ofBlock_of_gt {vs : List CompiledExpression} (hi : g + (vs.map (·.groupCount)).sum < i)
    (hpos : ∀ v ∈ vs, 0 < v.groupCount) : (ofBlock g vs).Free i := by
  refine ⟨show i ≠ g by omega, fun hmem => ?_⟩
  obtain ⟨j, hj, heq⟩ := List.mem_map.1 hmem
  rw [List.mem_range] at hj
  have hsum : (vs.map (·.groupCount)).sum =
      ((vs.take j).map (·.groupCount)).sum + ((vs.drop j).map (·.groupCount)).sum := by
    rw [← List.sum_append, ← List.map_append, List.take_append_drop]
  rw [List.drop_eq_getElem_cons hj, List.map_cons, List.sum_cons] at hsum
  have := hpos vs[j] (List.getElem_mem hj)
  omega

theorem free_ofBlock_of_lt {vs : List CompiledExpression} (hi : i < g) : (ofBlock g vs).Free i := by
  refine ⟨show i ≠ g by omega, fun hmem => ?_⟩
  obtain ⟨j, -, heq⟩ := List.mem_map.1 hmem
  omega

end Choice

def Level.Lies (c : Choice) (l : Level) : Prop := ∀ t ∈ l.pieces ++ l.branches, t.Lies c .outside

namespace Level

variable {c : Choice} {l : Level}

theorem Lies.push {t : Tree} (ht : t.Lies c .outside) (h : l.Lies c) : (l.push t).Lies c :=
  List.forall_mem_cons.2 ⟨ht, h⟩

theorem Lies.branch (h : l.Lies c) : l.branch.Lies c .outside := by
  refine Tree.lies_ofPieces (by simp) fun t ht => h t ?_
  exact List.mem_append_left _ (List.mem_reverse.1 ht)

theorem Lies.finish (h : l.Lies c) : l.finish.Lies c .outside :=
  lies_finish h.branch fun t ht => h t (List.mem_append_right _ ht)

end Level

namespace Builder

variable {c : Choice} {b b' : Builder} {item : Item} {cs rest next : List Char}

structure Lies (c : Choice) (b : Builder) : Prop where
  level : b.level.Lies c
  outer : ∀ g ∈ b.outer, g.before.Lies c ∧ ∀ i ∈ g.kind.groups, c.Free i

theorem Pushes.lies (h : b.Pushes item b') (hflat : item.Flat) (hfree : ∀ i, b.captures < i → c.Free i)
    (hb : b.Lies c) : b'.Lies c := by
  obtain ⟨hlevel, houter⟩ := hb
  have hempty : Level.empty.Lies c := fun t ht => by simp [Level.empty] at ht
  cases h with
  | piece t =>
      have hgroups : t.groups = [] := hflat
      exact ⟨hlevel.push (Tree.lies_of_free (by simp [hgroups]) (by simp)), houter⟩
  | @operator t rest min max greedy hlast =>
      refine ⟨?_, houter⟩
      rw [Level.Lies, hlast] at hlevel
      obtain ⟨ht, hrest⟩ := List.forall_mem_cons.1 hlevel
      exact List.forall_mem_cons.2 ⟨⟨by simp, ht⟩, hrest⟩
  | directive changes => exact ⟨hlevel.push (Tree.lies_of_free (by simp [Tree.groups]) (by simp)), houter⟩
  | capture name names =>
      refine ⟨hempty, List.forall_mem_cons.2 ⟨⟨hlevel, ?_⟩, houter⟩⟩
      exact List.forall_mem_singleton.2 (hfree _ (Nat.lt_succ_self _))
  | modes changes =>
      exact ⟨hempty, List.forall_mem_cons.2 ⟨⟨hlevel, by simp [GroupKind.groups]⟩, houter⟩⟩
  | bar =>
      refine ⟨fun t ht => ?_, houter⟩
      rcases List.mem_cons.1 ht with rfl | ht
      · exact hlevel.branch
      · exact hlevel t (List.mem_append_right _ ht)
  | @closing g outer heq =>
      rw [heq] at houter
      obtain ⟨⟨hbefore, hkind⟩, houter⟩ := List.forall_mem_cons.1 houter
      refine ⟨hbefore.push ?_, houter⟩
      obtain ⟨before, kind, verbose⟩ := g
      cases kind with
      | capture i name => exact (hkind i List.mem_cons_self).admits (by simp) hlevel.finish
      | «scoped» changes => exact ⟨by simp, hlevel.finish⟩

theorem Reads.lies (h : Reads b cs b' rest) (hfree : ∀ i, b.captures < i → c.Free i) (hb : b.Lies c) :
    b'.Lies c := by
  induction h with
  | done => exact hb
  | item hread _ hpush _ ih =>
      refine ih (fun i hi => hfree i ?_) (hpush.lies (Item.flat_of_read hread) hfree hb)
      exact Nat.lt_of_le_of_lt hpush.captures_le hi

theorem Above.lies {lo depth : Nat} (h : b.Above lo [] depth) (hfree : ∀ i ≤ b.captures, c.Free i) :
    b.Lies c := by
  obtain ⟨-, inner, houter, -, hgroups⟩ := h
  have hlevel : ∀ l : Level, (∀ i ∈ l.groups, i ≤ b.captures) → l.Lies c := fun l hl t ht =>
    Tree.lies_of_free (fun i hi => hfree i (hl i (List.mem_flatMap.2 ⟨t, ht, hi⟩))) (by simp)
  refine ⟨hlevel _ fun i hi => (hgroups i (List.mem_append_left _ hi)).2, fun g hg => ?_⟩
  rw [houter, List.append_nil] at hg
  have hgroup : ∀ i ∈ g.groups, i ≤ b.captures := fun i hi =>
    (hgroups i (List.mem_append_right _ (List.mem_flatMap.2 ⟨g, hg, hi⟩))).2
  obtain ⟨hkind, hbefore⟩ := List.forall_mem_append.1 hgroup
  exact ⟨hlevel _ hbefore, fun i hi => hfree i (hkind i hi)⟩

theorem exists_of_run {fuel : Nat} (hverbose : b.verbose = false) (h : run fuel b cs = some b')
    (hread : Item.read false cs = some (item, rest)) :
    ∃ fuel' b₂, b.Pushes item b₂ ∧ run fuel' b₂ rest = some b' := by
  cases fuel with
  | zero => cases h
  | succ fuel =>
      have hcases := run_cases h
      rw [hverbose, afterBlanks_false] at hcases
      rcases hcases with ⟨rfl, -⟩ | ⟨item', rest', b₂, hread', hpush, hrun⟩
      · cases hread
      · rw [hread] at hread'
        obtain ⟨rfl, rfl⟩ := Prod.mk.inj (Option.some.inj hread')
        exact ⟨fuel, b₂, pushes_of_push? hpush, hrun⟩

end Builder

end Regex

namespace CompiledExpression

/-- The body is a pattern by itself: it is read to its end from a place that bears no items but those
that the start of a pattern bears. -/
def IsPattern (v : CompiledExpression) : Prop :=
  ∃ fuel own own', own.Steady ∧ Regex.Builder.empty.Bears own ∧
    Regex.Builder.run fuel own v.body.toList = some own' ∧ own'.outer = []

def tree? (v : CompiledExpression) : Option Regex.Tree := Regex.Tree.parse? v.body.toList

def variantTrees? (slot : Nat) : List CompiledExpression → Option (List Regex.Tree)
  | [] => some []
  | v :: vs => do
    let t ← v.tree?
    let ts ← variantTrees? (slot + v.groupCount) vs
    return .group (.capture slot none) (t.shift slot) :: ts

theorem variantTrees?_ne_nil {slot : Nat} {vs : List CompiledExpression} {ts : List Regex.Tree}
    (hne : vs ≠ []) (h : variantTrees? slot vs = some ts) : ts ≠ [] := by
  cases vs with
  | nil => exact absurd rfl hne
  | cons v vs =>
      obtain ⟨t, -, h⟩ := Option.bind_eq_some_iff.1 h
      obtain ⟨rest, -, h⟩ := Option.bind_eq_some_iff.1 h
      cases h
      exact List.cons_ne_nil _ _

/-- What the group of a block holds: the tree of the one variant, with its numbers moved up by that of
the group, or a choice between groups for the variants. -/
def blockTree? (a : Nat) : List CompiledExpression → Option Regex.Tree
  | [v] => v.tree?.map (.shift a)
  | vs => (variantTrees? (a + 1) vs).map .ofAlternatives

theorem blockTree?_several {vs : List CompiledExpression} (hlen : vs.length ≠ 1) (a : Nat) :
    blockTree? a vs = (variantTrees? (a + 1) vs).map .ofAlternatives := by
  match vs with
  | [] | _ :: _ :: _ => rfl
  | [v] => exact absurd rfl hlen

structure HasTree (v : CompiledExpression) (t : Regex.Tree) : Prop where
  parsed : v.tree? = some t
  mem_groups : ∀ i, i ∈ t.groups ↔ 0 < i ∧ i < v.groupCount

end CompiledExpression

namespace Regex.Builder

open CompiledExpression

variable {b b' : Builder} {next : List Char} {g : Nat} {v : CompiledExpression}
  {us vs : List CompiledExpression}

theorem Pushes.opens (h : b.Pushes (.opening (.capture none)) b') :
    b'.level = .empty ∧ b'.captures = b.captures + 1 ∧
      b'.outer = ⟨b.level, .capture (b.captures + 1) none, b.verbose⟩ :: b.outer := by
  cases h
  exact ⟨rfl, rfl, rfl⟩

theorem Pushes.closes (h : b.Pushes .closing b') {o : OpenGroup} {outer : List OpenGroup}
    (houter : b.outer = o :: outer) :
    b'.level = o.before.push (.group o.kind b.level.finish) ∧ b'.outer = outer ∧
      b'.captures = b.captures := by
  cases h with
  | closing heq =>
      rw [houter] at heq
      obtain ⟨rfl, rfl⟩ := List.cons.inj heq
      exact ⟨rfl, rfl, rfl⟩

theorem head?_append_close {cs : List Char} (h : cs.head? ≠ some '?') (next : List Char) :
    (cs ++ ')' :: next).head? ≠ some '?' := by
  cases cs with
  | nil => simp
  | cons c cs => exact h

/-- A variant in parentheses becomes a group with the next number, which holds the variant's tree. -/
theorem Reads.enclosed (hv : v.Sound) (hpattern : v.IsPattern) (hbare : Bare (group v.body.toList ++ next))
    (h : Reads b (group v.body.toList ++ next) b' []) :
    ∃ b₂ t, v.HasTree t ∧ Reads b₂ next b' [] ∧
      b₂.level = b.level.push (.group (.capture (b.captures + 1) none) (t.shift (b.captures + 1))) ∧
        b₂.outer = b.outer ∧ b₂.captures = b.captures + v.groupCount := by
  obtain ⟨fuel, own, own', hsteady, hbears, hrun, hclosed⟩ := hpattern
  have hhead := head?_append_close hv.tight.head next
  have hgroup : group v.body.toList ++ next = '(' :: (v.body.toList ++ ')' :: next) := by simp [group]
  rw [hgroup] at h hbare
  have hopened : marks _ = [opener none] ++ marks (v.body.toList ++ ')' :: next) := marks_open hhead
  have hbare₁ := hbare.of_marks hopened
  obtain ⟨b₁, hpush, -, h⟩ := h.peel (Item.readOpening_plain hhead)
  obtain ⟨hlevel, hcaptures, houter⟩ := hpush.opens
  have hmirrors : Mirrors (b.captures + 1) b₁.outer .empty b₁ :=
    ⟨by rw [hlevel]; rfl, ⟨[], rfl, .nil⟩, by rw [hcaptures]; exact (Nat.zero_add _).symm⟩
  obtain ⟨x, b₂, hxrun, hxclosed, hxreads, hto, hfrom, hlevel₂, ⟨inner, hinner, hshape⟩, hcaptures₂⟩ :=
    Reads.mirrored hrun hclosed hsteady hbears hmirrors hbare₁ h
  rw [hxclosed, List.forall₂_nil_left_iff] at hshape
  rw [hshape, List.nil_append, houter] at hinner
  have hcount : b₂.captures = b.captures + v.groupCount := by
    obtain ⟨ms, hms, hcount⟩ := hto.captures_eq hfrom hbare₁
    rw [hv.tight.marks_append _ (ends_close next)] at hms
    rw [hcount, hcaptures, ← List.append_cancel_right hms, hv.groupCount, Nat.add_assoc]
  obtain ⟨b₃, hpush, -, h⟩ := hfrom.peel rfl
  obtain ⟨hlevel₃, houter₃, hcaptures₃⟩ := hpush.closes hinner
  refine ⟨b₃, x.level.finish, ⟨?_, fun i => ?_⟩, h, ?_, houter₃, hcaptures₃.trans hcount⟩
  · simp [CompiledExpression.tree?, Tree.parse?, hxrun, hxclosed]
  · rw [(hxreads.distinct (above_empty.distinct rfl)).mem_groups_finish hxclosed]
    omega
  · rw [hlevel₃, hlevel₂, Level.finish_shift]

theorem Reads.alternatives (hvs : ∀ v ∈ vs, v.Sound ∧ v.IsPattern) (hne : vs ≠ [])
    (hpieces : b.level.pieces = []) (hbare : Bare (Draft.alternatives vs ++ next))
    (h : Reads b (Draft.alternatives vs ++ next) b' []) :
    ∃ b₂ ts, variantTrees? (b.captures + 1) vs = some ts ∧ (∀ v ∈ vs, ∃ t, v.HasTree t) ∧
      Reads b₂ next b' [] ∧ b₂.level.branch :: b₂.level.branches = ts.reverse ++ b.level.branches ∧
        b₂.outer = b.outer ∧ b₂.captures = b.captures + (vs.map (·.groupCount)).sum := by
  induction vs generalizing b with
  | nil => exact absurd rfl hne
  | cons v vs ih =>
      obtain ⟨⟨hv, hpattern⟩, hvs⟩ := List.forall_mem_cons.1 hvs
      cases vs with
      | nil =>
          obtain ⟨b₂, t, ht, h, hlevel, houter, hcount⟩ := h.enclosed hv hpattern hbare
          refine ⟨b₂, [.group (.capture (b.captures + 1) none) (t.shift (b.captures + 1))], ?_, ?_, h, ?_, houter, ?_⟩
          · simp [variantTrees?, ht.parsed]
          · exact List.forall_mem_singleton.2 ⟨t, ht⟩
          · rw [hlevel, Level.branch, Level.push, hpieces]
            rfl
          · simpa using hcount
      | cons w ws =>
          rw [Draft.alternatives_cons_cons, List.append_assoc, List.append_assoc] at h hbare
          have hbare₂ := hbare.of_marks (hv.tight.sealed.closed _)
          -- one variant, its bar, and then the others as a branch of their own
          obtain ⟨b₂, t, ht, h, hlevel, houter, hcount⟩ := h.enclosed hv hpattern hbare
          obtain ⟨b₃, hpush, -, h⟩ := h.peel rfl
          cases hpush with
          | bar =>
              have hbar : isStructural '|' = false := by decide
              have hpassed : marks _ = [('|', none)] ++ marks (Draft.alternatives (w :: ws) ++ next) :=
                marks_ordinary hbar _
              obtain ⟨b₄, ts, htrees, hall, h, hbranches, houter₄, hcount₄⟩ :=
                ih (b := { b₂ with level := b₂.level.bar }) hvs (by simp) rfl (hbare₂.of_marks hpassed) h
              refine ⟨b₄, .group (.capture (b.captures + 1) none) (t.shift (b.captures + 1)) :: ts, ?_,
                List.forall_mem_cons.2 ⟨⟨t, ht⟩, hall⟩, h, ?_, houter₄.trans houter, ?_⟩
              · have hslot : b.captures + 1 + v.groupCount = b₂.captures + 1 := by omega
                rw [variantTrees?, ht.parsed, hslot]
                simp [htrees]
              · rw [hbranches, List.reverse_cons, List.append_assoc]
                dsimp only [Level.bar]
                rw [hlevel, Level.branch, Level.push, hpieces]
                rfl
              · simp only [hcount₄, hcount, List.map_cons, List.sum_cons, Nat.add_assoc]

/-- Several variants in parentheses become a group with the next number, which holds a choice. -/
theorem Reads.several (hvs : ∀ v ∈ vs, v.Sound ∧ v.IsPattern) (hne : vs ≠ [])
    (hbare : Bare ('(' :: (Draft.alternatives vs ++ ')' :: next)))
    (h : Reads b ('(' :: (Draft.alternatives vs ++ ')' :: next)) b' []) :
    ∃ b₂ ts, variantTrees? (b.captures + 2) vs = some ts ∧ (∀ v ∈ vs, ∃ t, v.HasTree t) ∧
      Reads b₂ next b' [] ∧
        b₂.level = b.level.push (.group (.capture (b.captures + 1) none) (.ofAlternatives ts)) ∧
          b₂.outer = b.outer ∧ b₂.captures = b.captures + 1 + (vs.map (·.groupCount)).sum := by
  have hsound : ∀ v ∈ vs, v.Sound := fun v hv => (hvs v hv).1
  have hhead : (Draft.alternatives vs ++ ')' :: next).head? ≠ some '?' :=
    head?_append_close (Draft.alternatives_reads hsound hne).1.tight.head _
  obtain ⟨b₁, hpush, -, h⟩ := h.peel (Item.readOpening_plain hhead)
  obtain ⟨hlevel, hcaptures, houter⟩ := hpush.opens
  have hopened : marks _ = [opener none] ++ marks (Draft.alternatives vs ++ ')' :: next) := marks_open hhead
  obtain ⟨b₂, ts, htrees, hall, h, hbranches, houter₂, hcount⟩ :=
    h.alternatives hvs hne (by rw [hlevel]; rfl) (hbare.of_marks hopened)
  obtain ⟨b₃, hpush, -, h⟩ := h.peel rfl
  obtain ⟨hlevel₃, houter₃, hcaptures₃⟩ := hpush.closes (houter₂.trans houter)
  rw [hcaptures] at htrees hcount
  refine ⟨b₃, ts, htrees, hall, h, ?_, houter₃, hcaptures₃.trans hcount⟩
  have hempty : b₁.level.branches = [] := by rw [hlevel]; rfl
  rw [hlevel₃, Level.finish_eq, hbranches, hempty, List.append_nil, List.reverse_reverse]

theorem lies_variantTrees (hvs : ∀ v ∈ vs, ∃ t, v.HasTree t) {ts : List Tree}
    (h : variantTrees? (g + 1 + (us.map (·.groupCount)).sum) vs = some ts) :
    ∀ t ∈ ts, t.Lies (.ofBlock g (us ++ vs)) .branches := by
  induction vs generalizing us ts with
  | nil =>
      cases h
      simp
  | cons v vs ih =>
      obtain ⟨⟨t, ht⟩, hvs⟩ := List.forall_mem_cons.1 hvs
      obtain ⟨t', ht', h⟩ := Option.bind_eq_some_iff.1 h
      obtain ⟨rest, hrest, h⟩ := Option.bind_eq_some_iff.1 h
      cases h
      obtain rfl : t = t' := Option.some.inj (ht.parsed.symm.trans ht')
      have hassoc : us ++ v :: vs = us ++ [v] ++ vs := by simp
      have hsum : g + 1 + (us.map (·.groupCount)).sum + v.groupCount =
          g + 1 + ((us ++ [v]).map (·.groupCount)).sum := by simp [Nat.add_assoc]
      rw [hsum] at hrest
      refine List.forall_mem_cons.2 ⟨⟨Choice.mem_slots_ofBlock g us v vs, ?_⟩, hassoc ▸ ih hvs hrest⟩
      refine Tree.lies_of_free (fun i hi => ?_) (by simp)
      rw [Tree.groups_shift] at hi
      obtain ⟨j, hj, rfl⟩ := List.mem_map.1 hi
      obtain ⟨hlo, hhi⟩ := (ht.mem_groups j).1 hj
      exact Choice.free_ofBlock (by omega) (by omega)

theorem Reads.split_text {cs text : List Char} {front back ms : List Marked} (hbare : Bare cs)
    (hopener : marks text = opener none :: ms) (hmarks : marks cs = front ++ marks text ++ back)
    (h : Reads b cs b' []) :
    ∃ b₁, Reads b cs b₁ (text ++ chars back) ∧ Reads b₁ (text ++ chars back) b' [] ∧
      Bare (text ++ chars back) ∧ cs = chars front ++ (text ++ chars back) ∧
        b₁.captures = b.captures + (Marked.names front).length := by
  have hsplit : marks cs = front ++ opener none :: (ms ++ back) := by
    rw [hmarks, hopener]
    simp
  obtain ⟨b₁, mid, hto, hfrom, hcs, hmid, hcount⟩ := h.split hbare hsplit
  have hreached : marks cs = front ++ marks mid := by rw [hsplit, hmid]
  have hbare₁ := hbare.of_marks hreached
  have htext : mid = text ++ chars back := by
    have hchars : chars (marks text) = text := chars_marks fun x hx => by
      refine hbare.unnamed x ?_
      rw [hmarks, names_append, names_append]
      exact List.mem_append_left _ (List.mem_append_right _ hx)
    rw [← chars_marks hbare₁.unnamed, hmid, ← List.cons_append, ← hopener, chars_append, hchars]
  subst htext
  exact ⟨b₁, hto, hfrom, hbare₁, hcs, hcount⟩

theorem Reads.split_block {cs : List Char} {front back : List Marked} (hsound : ∀ v ∈ vs, v.Sound)
    (hne : vs ≠ []) (hbare : Bare cs)
    (hmarks : marks cs = front ++ Marked.block (vs.map fun v => marks v.body.toList) ++ back)
    (h : Reads b cs b' []) :
    ∃ b₁, Reads b cs b₁ ((Draft.blockText vs).toList ++ chars back) ∧
      Reads b₁ ((Draft.blockText vs).toList ++ chars back) b' [] ∧
        Bare ((Draft.blockText vs).toList ++ chars back) ∧
          cs = chars front ++ ((Draft.blockText vs).toList ++ chars back) ∧
            b₁.captures = b.captures + (Marked.names front).length := by
  have hblock := Draft.marks_blockText hsound hne
  obtain ⟨ms, hms⟩ := Marked.exists_block_eq (vs.map fun v => marks v.body.toList)
  rw [← hblock] at hms hmarks
  exact h.split_text hbare hms hmarks

theorem Reads.block (hvs : ∀ v ∈ vs, v.Sound ∧ v.IsPattern) (hne : vs ≠ [])
    (hbare : Bare ((Draft.blockText vs).toList ++ next))
    (h : Reads b ((Draft.blockText vs).toList ++ next) b' []) :
    ∃ b₂ content, blockTree? (b.captures + 1) vs = some content ∧ Reads b₂ next b' [] ∧
      b₂.level = b.level.push (.group (.capture (b.captures + 1) none) content) := by
  by_cases hlen : vs.length = 1
  · obtain ⟨v, rfl⟩ := List.length_eq_one_iff.1 hlen
    obtain ⟨hv, hpattern⟩ := hvs v List.mem_cons_self
    rw [Draft.toList_blockText_single] at h hbare
    obtain ⟨b₂, t, ht, h, hlevel, -⟩ := h.enclosed hv hpattern hbare
    exact ⟨b₂, _, by rw [blockTree?, ht.parsed]; rfl, h, hlevel⟩
  · have htext : (Draft.blockText vs).toList ++ next = '(' :: (Draft.alternatives vs ++ ')' :: next) := by
      rw [Draft.toList_blockText_several hne hlen]
      simp [group]
    rw [htext] at h hbare
    obtain ⟨b₂, ts, htrees, -, h, hlevel, -⟩ := h.several hvs hne hbare
    exact ⟨b₂, _, by rw [blockTree?_several hlen, htrees]; rfl, h, hlevel⟩

/-- A block of several variants is read as a choice between them. -/
theorem Reads.lies_block {cs : List Char} {front back : List Marked} {depth : Nat}
    (hvs : ∀ v ∈ vs, v.Sound ∧ v.IsPattern) (hne : vs ≠ []) (hlen : vs.length ≠ 1) (hb : b.Above 0 [] depth)
    (hcaptures : b.captures = 0) (hbare : Bare cs)
    (hmarks : marks cs = front ++ Marked.block (vs.map fun v => marks v.body.toList) ++ back)
    (h : Reads b cs b' []) : b'.level.finish.Lies (.ofBlock (1 + (Marked.names front).length) vs) .outside := by
  have hsound : ∀ v ∈ vs, v.Sound := fun v hv => (hvs v hv).1
  obtain ⟨b₁, hto, hfrom, hbare₁, -, hcount⟩ := h.split_block hsound hne hbare hmarks
  have htext : (Draft.blockText vs).toList ++ chars back =
      '(' :: (Draft.alternatives vs ++ ')' :: chars back) := by
    rw [Draft.toList_blockText_several hne hlen]
    simp [group]
  rw [htext] at hfrom hbare₁
  obtain ⟨b₂, ts, htrees, hall, h, hlevel, houter, hcount₂⟩ := hfrom.several hvs hne hbare₁
  obtain ⟨depth', habove⟩ := hto.above hb
  have hnumber : b₁.captures + 1 = 1 + (Marked.names front).length := by omega
  have hlies : b₁.Lies (.ofBlock (1 + (Marked.names front).length) vs) :=
    habove.lies fun i hi => Choice.free_ofBlock_of_lt (by omega)
  have hbranches : ∀ t ∈ ts, t.Lies (.ofBlock (1 + (Marked.names front).length) vs) .branches := by
    have hslot : b₁.captures + 2 = b₁.captures + 1 + 1 + (([] : List CompiledExpression).map
        (·.groupCount)).sum := rfl
    rw [← hnumber]
    exact lies_variantTrees hall (hslot ▸ htrees)
  have hlies₂ : b₂.Lies (.ofBlock (1 + (Marked.names front).length) vs) := by
    refine ⟨?_, houter ▸ hlies.outer⟩
    rw [hlevel]
    exact hlies.level.push (.inr ⟨hnumber, Tree.lies_ofAlternatives (variantTrees?_ne_nil hne htrees) hbranches⟩)
  refine (h.lies (fun i hi => Choice.free_ofBlock_of_gt (by omega) fun v hv => ?_) hlies₂).level.finish
  rw [(hsound v hv).groupCount]
  omega

end Regex.Builder

end Patchwork
