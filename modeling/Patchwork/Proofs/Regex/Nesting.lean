import Patchwork.Proofs.Regex.Choice
import Patchwork.Proofs.Regex.Openings

namespace Patchwork.Regex

open Token

namespace Tree

theorem groups_singleEscape {c : Char} {t : Tree} (h : singleEscape? c = some t) : t.groups = [] := by
  unfold singleEscape? at h
  split at h
  · cases h
    rfl
  · split at h <;> cases h <;> rfl

theorem groups_readEscape {t : Tree} {cs rest : List Char} (h : readEscape false cs = some (t, rest)) :
    t.groups = [] := by
  cases cs with
  | nil => cases h
  | cons c cs =>
      cases escapes_of_read h with
      | code | property | boundary => rfl
      | single _ hsingle => exact groups_singleEscape hsingle

end Tree

namespace Item

variable {item : Item} {cs rest : List Char}

def depth : Item → Nat → Nat
  | .opening _, n => n + 1
  | .closing, n => n - 1
  | _, n => n

def Flat : Item → Prop
  | .piece t => t.groups = []
  | _ => True

theorem flat_readOpening (h : readOpening false cs = some (item, rest)) : item.Flat := by
  rcases opening_cases cs with hplain | ⟨style, after, rfl⟩ | ⟨after, rfl, hplain, hwithP⟩
  · rw [readOpening_plain hplain] at h
    cases h
    trivial
  · rw [readOpening_lead] at h
    obtain ⟨p, -, heq⟩ := Option.map_eq_some_iff.1 h
    cases heq
    trivial
  · rw [readOpening_scope hplain hwithP] at h
    obtain ⟨⟨changes, finish, after⟩, -, h⟩ := Option.bind_eq_some_iff.1 h
    dsimp only at h
    split at h
    · cases h
      trivial
    · split at h <;> cases h
      trivial

theorem flat_of_read (h : read false cs = some (item, rest)) : item.Flat := by
  cases cs with
  | nil => cases h
  | cons c cs =>
      cases begins_of_read h with
      | opening h => exact flat_readOpening h
      | operator hsign h =>
          obtain ⟨greedy, rfl⟩ := exists_of_readOperator h
          trivial
      | counted h =>
          obtain ⟨min, max, greedy, rfl⟩ := exists_of_readCounted h
          trivial
      | escape ht => exact Tree.groups_readEscape ht
      | closing | bar => trivial
      | «class» | dot | lineStart | lineEnd | literal => rfl

end Item

def GroupKind.groups : GroupKind → List Nat
  | .capture i _ => [i]
  | .scoped _ => []

theorem Tree.groups_group (kind : GroupKind) (t : Tree) : (group kind t).groups = kind.groups ++ t.groups := by
  cases kind <;> rfl

namespace Level

variable {l : Level} {i : Nat}

def groups (l : Level) : List Nat := (l.pieces ++ l.branches).flatMap Tree.groups

theorem groups_push (t : Tree) : (l.push t).groups = t.groups ++ l.groups := rfl

theorem mem_groups_branch : i ∈ l.branch.groups ↔ ∃ t ∈ l.pieces, i ∈ t.groups := by
  simp [branch, Tree.mem_groups_ofPieces]

theorem mem_groups_bar : i ∈ l.bar.groups ↔ i ∈ l.groups := by
  simp [bar, groups, mem_groups_branch]

theorem mem_groups_finish : i ∈ l.finish.groups ↔ i ∈ l.groups := by
  unfold finish
  split
  · next heq => simp at heq
  · next t rest heq =>
      rw [Tree.mem_groups_ofBranches, ← heq]
      simp [groups, mem_groups_branch, or_comm]

theorem lies_finish {c : Choice} {z : Zone} (hbranch : l.branch.Lies c z)
    (hbranches : ∀ t ∈ l.branches, t.Lies c z) : l.finish.Lies c z := by
  unfold finish
  split
  · next heq => simp at heq
  · next t rest heq =>
      have hall : ∀ u ∈ l.branch :: l.branches, u.Lies c z :=
        List.forall_mem_cons.2 ⟨hbranch, hbranches⟩
      refine Tree.lies_ofBranches fun u hu => hall u ?_
      rwa [← heq, List.mem_reverse] at hu

end Level

def OpenGroup.groups (g : OpenGroup) : List Nat := g.kind.groups ++ g.before.groups

namespace Builder

/-- So many groups are open above the outer ones, and the groups that have been read since these were
opened are numbered above `lo`. -/
structure Above (lo : Nat) (outer : List OpenGroup) (depth : Nat) (b : Builder) : Prop where
  le : lo ≤ b.captures
  stack : ∃ inner, b.outer = inner ++ outer ∧ inner.length = depth ∧
    ∀ i ∈ b.level.groups ++ inner.flatMap OpenGroup.groups, lo < i ∧ i ≤ b.captures

variable {b b' : Builder} {item : Item} {lo depth : Nat} {outer : List OpenGroup}

theorem above_empty : Builder.empty.Above 0 [] 0 :=
  ⟨Nat.le_refl _, [], rfl, rfl, by simp [Builder.empty, Level.groups, Level.empty]⟩

theorem Pushes.above (h : b.Pushes item b') (hflat : item.Flat) (hdepth : item = .closing → 0 < depth)
    (hb : b.Above lo outer depth) : b'.Above lo outer (item.depth depth) := by
  obtain ⟨hle, inner, houter, hlen, hgroups⟩ := hb
  cases h with
  | piece t =>
      refine ⟨hle, inner, houter, hlen, ?_⟩
      rwa [Level.groups_push, show t.groups = [] from hflat]
  | operator min max greedy hlast =>
      refine ⟨hle, inner, houter, hlen, ?_⟩
      simpa [Level.groups, hlast, Tree.groups] using hgroups
  | directive changes => exact ⟨hle, inner, houter, hlen, hgroups⟩
  | capture name names =>
      refine ⟨Nat.le_succ_of_le hle, _ :: inner, congrArg _ houter, congrArg _ hlen, fun i hi => ?_⟩
      simp only [Level.groups, Level.empty, List.flatMap_cons, OpenGroup.groups, GroupKind.groups,
        List.append_nil, List.flatMap_nil, List.nil_append, List.cons_append, List.mem_cons] at hi
      rcases hi with rfl | hi
      · exact ⟨Nat.lt_succ_of_le hle, Nat.le_refl _⟩
      · obtain ⟨hlo, hhi⟩ := hgroups i hi
        exact ⟨hlo, Nat.le_succ_of_le hhi⟩
  | modes changes => exact ⟨hle, _ :: inner, congrArg _ houter, congrArg _ hlen, hgroups⟩
  | bar =>
      refine ⟨hle, inner, houter, hlen, fun i hi => hgroups i ?_⟩
      rwa [List.mem_append, Level.mem_groups_bar, ← List.mem_append] at hi
  | @closing g outer' heq =>
      cases inner with
      | nil => exact absurd hlen (Nat.ne_of_lt (hdepth rfl))
      | cons g' inner =>
          rw [houter] at heq
          obtain ⟨rfl, rfl⟩ := List.cons.inj heq
          subst hlen
          refine ⟨hle, inner, rfl, rfl, fun i hi => hgroups i ?_⟩
          simp only [Level.groups_push, Tree.groups_group, List.mem_append, Level.mem_groups_finish] at hi
          simp only [List.flatMap_cons, OpenGroup.groups, List.mem_append]
          rcases hi with ((hi | hi) | hi) | hi
          · exact .inr (.inl (.inl hi))
          · exact .inl hi
          · exact .inr (.inl (.inr hi))
          · exact .inr (.inr hi)

theorem Pushes.length_outer (h : b.Pushes item b') :
    b'.outer.length = item.depth b.outer.length ∧ (item = .closing → 0 < b.outer.length) := by
  cases h with
  | piece | operator | directive | capture | modes | bar => exact ⟨rfl, by simp⟩
  | closing heq => simp [heq, Item.depth]

theorem Pushes.captures_le (h : b.Pushes item b') : b.captures ≤ b'.captures := by
  cases h with
  | capture name names => exact Nat.le_succ _
  | piece | operator | directive | modes | bar | closing => exact Nat.le_refl _

variable {own own' : Builder} {cs rest next : List Char}

theorem Reads.captures_eq {b₂ : Builder} (h : Reads b cs b₂ rest) (hrest : Reads b₂ rest b' [])
    (hbare : Bare cs) :
    ∃ ms, marks cs = ms ++ marks rest ∧ b₂.captures = b.captures + (Marked.names ms).length := by
  induction h with
  | done b cs => exact ⟨[], rfl, rfl⟩
  | item hread hitem hpush h ih =>
      rcases hbare.marks_item hread hitem (h.trans hrest).isSome_read with
        ⟨rfl, -, hmarks⟩ | ⟨hother, xs, hmarks, -, hnames⟩
      · have hmarks' : marks _ = [Marked.opener none] ++ marks _ := hmarks
        obtain ⟨ms, hms, hcount⟩ := ih hrest (hbare.of_marks hmarks')
        refine ⟨Marked.opener none :: ms, by rw [hmarks, hms, List.cons_append], ?_⟩
        rw [hcount, hpush.captures_capture, Marked.names_cons_opener, List.length_cons]
        omega
      · obtain ⟨ms, hms, hcount⟩ := ih hrest (hbare.of_marks hmarks)
        refine ⟨xs ++ ms, by rw [hmarks, hms, List.append_assoc], ?_⟩
        rw [hcount, hpush.captures_other hother, Marked.names_append, hnames, List.nil_append]

theorem Reads.above {lo depth : Nat} (h : Reads b cs b' rest) (hb : b.Above lo [] depth) :
    ∃ depth', b'.Above lo [] depth' := by
  induction h generalizing depth with
  | done => exact ⟨depth, hb⟩
  | item hread _ hpush _ ih =>
      obtain ⟨hle, inner, houter, rfl, hgroups⟩ := hb
      rw [List.append_nil] at houter
      refine ih (hpush.above (Item.flat_of_read hread) ?_ ⟨hle, inner, by simp [houter], rfl, hgroups⟩)
      rw [← houter]
      exact hpush.length_outer.2

/-- What follows an item of a text that is a pattern by itself does not go on with it. -/
theorem read_close {item : Item} (h : Item.read false cs = some (item, rest)) (next : List Char) :
    Item.read false (cs ++ ')' :: next) = some (item, rest ++ ')' :: next) :=
  Item.read_append h (ends_close next)

theorem Reads.carry {fuel : Nat} (h : Reads own cs own' []) (hsteady : b.Steady)
    (hrun : run fuel b (cs ++ ')' :: next) = some b') :
    ∃ fuel' b₂, Reads b (cs ++ ')' :: next) b₂ (')' :: next) ∧
      run fuel' b₂ (')' :: next) = some b' ∧ b₂.Steady := by
  generalize hend : ([] : List Char) = last at h
  induction h generalizing fuel b with
  | done own cs =>
      subst hend
      exact ⟨fuel, b, .done _ _, hrun, hsteady⟩
  | item hread hitem hpush h ih =>
      cases fuel with
      | zero => cases hrun
      | succ fuel =>
          have hcases := run_cases hrun
          rw [hsteady.verbose, afterBlanks_false] at hcases
          rcases hcases with ⟨hnil, -⟩ | ⟨item', rest', bNext, hread', hpush', hrun⟩
          · simp at hnil
          · rw [read_close hread] at hread'
            obtain ⟨rfl, rfl⟩ := Prod.mk.inj (Option.some.inj hread')
            have hpush' := pushes_of_push? hpush'
            obtain ⟨fuel', b₂, hto, hrun, hsteady₂⟩ := ih (hpush'.steady hitem hsteady) hrun hend
            exact ⟨fuel', b₂, .item (read_close hread next) hitem hpush' hto, hrun, hsteady₂⟩

end Builder

end Patchwork.Regex
