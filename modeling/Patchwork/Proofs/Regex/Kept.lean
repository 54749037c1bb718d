import Patchwork.Proofs.Regex.Trees

namespace Patchwork.Regex

open Token

namespace Form

theorem lastGroup_repeated {min : Nat} {max : Option Nat} {f : Form} (h : max ≠ some 0 ∨ f.lastGroup = 0)
    (greedy : Bool) : (repeated min max greedy f).lastGroup = f.lastGroup := by
  unfold repeated
  by_cases hnothing : f.takesNothing = true
  · rw [if_pos hnothing]
    dsimp only
    split
    · next heq =>
        refine (h.resolve_left fun hmax => ?_).symm
        cases max with
        | none => cases heq
        | some max =>
            simp only [Option.getD_some, Option.some.injEq] at heq
            have hzero := (Nat.min_eq_zero_iff.1 heq).resolve_right Nat.one_ne_zero
            rw [hzero] at hmax
            exact hmax rfl
    · rfl
    · rfl
  · rw [if_neg hnothing]
    dsimp only
    split
    · exact (h.resolve_left (fun hmax => hmax rfl)).symm
    · rfl
    · rfl

end Form

namespace Tree

variable {m after : Modes} {t : Tree} {f : Form} {i n : Nat} {name : String}

def keepsGroups : Tree → Bool
  | .repeat _ max _ t => (max ≠ some 0 || t.groups.isEmpty) && t.keepsGroups
  | .group _ t => t.keepsGroups
  | .seq t u => t.keepsGroups && u.keepsGroups
  | .alt t u => t.keepsGroups && u.keepsGroups
  | _ => true

def named : Tree → List (Nat × String)
  | .repeat _ max _ t => if max = some 0 then [] else t.named
  | .group (.capture i (some name)) t => (i, name) :: t.named
  | .group _ t => t.named
  | .seq t u => t.named ++ u.named
  | .alt t u => t.named ++ u.named
  | _ => []

theorem mem_named (h : t.keepsGroups) : (i, name) ∈ t.named ↔ (i, some name) ∈ t.labels := by
  induction t with
  | «repeat» min max greedy t ih =>
      simp only [keepsGroups, Bool.and_eq_true, Bool.or_eq_true, decide_eq_true_eq, List.isEmpty_iff] at h
      rw [named, labels, ← ih h.2]
      split
      · next hmax =>
          have hgroups := h.1.resolve_left fun hne => hne hmax
          rw [groups_eq_labels, List.map_eq_nil_iff] at hgroups
          rw [ih h.2, hgroups]
          simp
      · rfl
  | group kind t ih =>
      cases kind with
      | capture j name' =>
          cases name' with
          | none => simp [named, labels, ih h]
          | some name' => simp [named, labels, ih h]
      | «scoped» changes => exact ih h
  | seq t u iht ihu | alt t u iht ihu =>
      rw [keepsGroups, Bool.and_eq_true] at h
      simp [named, labels, iht h.1, ihu h.2]
  | empty | flags | literal | dot | assertion | «class» => simp [named, labels]

theorem lastGroup_le_iff (hkeeps : t.keepsGroups) (h : t.Resolves m f after) :
    f.lastGroup ≤ n ↔ ∀ i ∈ t.groups, i ≤ n := by
  induction h generalizing n with
  | «repeat» min max greedy _ ih =>
      simp only [keepsGroups, Bool.and_eq_true, Bool.or_eq_true, decide_eq_true_eq, List.isEmpty_iff] at hkeeps
      have hlast := hkeeps.1.imp_right fun hnone => Nat.le_zero.1 ((ih hkeeps.2).2 (by simp [hnone]))
      rw [Form.lastGroup_repeated hlast]
      exact ih hkeeps.2
  | capture _ _ _ ih => rw [Form.lastGroup, Nat.max_le, ih hkeeps, groups, List.forall_mem_cons]
  | «scoped» _ ih => exact ih hkeeps
  | seq _ _ iht ihu | alt _ _ iht ihu =>
      rw [keepsGroups, Bool.and_eq_true] at hkeeps
      rw [Form.lastGroup, Nat.max_le, iht hkeeps.1, ihu hkeeps.2, groups, List.forall_mem_append]
  | empty | flags | literal | dot | assertion | «class» => simp [Form.lastGroup, groups]

theorem lastGroup_eq (hkeeps : t.keepsGroups) (h : t.resolve? m = some (f, after))
    (hgroups : ∀ i, i ∈ t.groups ↔ 0 < i ∧ i ≤ n) : f.lastGroup = n := by
  have hle : ∀ {n}, f.lastGroup ≤ n ↔ ∀ i ∈ t.groups, i ≤ n :=
    lastGroup_le_iff hkeeps (resolves_of_resolve? h)
  refine Nat.le_antisymm (hle.2 fun i hi => ((hgroups i).1 hi).2) ?_
  rcases Nat.eq_zero_or_pos n with rfl | hpos
  · exact Nat.zero_le _
  · exact hle.1 (Nat.le_refl _) n ((hgroups n).2 ⟨hpos, Nat.le_refl n⟩)

end Tree

namespace Builder

variable {b b' : Builder} {item : Item} {cs rest : List Char} {xs : List (Option String)}

structure Titled (xs : List (Option String)) (b : Builder) : Prop where
  captures : b.captures = xs.length
  mem_iff : ∀ i name, (i, some name) ∈ b.labels ↔ (none :: xs)[i]?.join = some name

theorem titled_empty : Titled [] .empty where
  captures := rfl
  mem_iff i name := by
    cases i <;> simp [labels, Builder.empty, Level.labels, Level.empty]

theorem Pushes.titled_other (h : b.Pushes item b') (hflat : item.Flat)
    (hother : ∀ name, item ≠ .opening (.capture name)) (hb : b.Titled xs) : b'.Titled xs := by
  have hlabels : item.labels b.captures = [] := by
    cases item with
    | opening o => cases o <;> first | rfl | exact absurd rfl (hother _)
    | _ => rfl
  have hperm := h.labels_perm hflat
  rw [hlabels, List.nil_append] at hperm
  exact ⟨(h.captures_other hother).trans hb.captures, fun i name => hperm.mem_iff.trans (hb.mem_iff i name)⟩

theorem Pushes.titled_capture {name : Option String} (h : b.Pushes (.opening (.capture name)) b')
    (hb : b.Titled xs) : b'.Titled (xs ++ [name]) := by
  have hperm : b'.labels.Perm ((b.captures + 1, name) :: b.labels) := h.labels_perm trivial
  refine ⟨by rw [h.captures_capture, hb.captures, List.length_append, List.length_singleton], fun i n => ?_⟩
  rw [hperm.mem_iff, List.mem_cons, hb.mem_iff, hb.captures, ← List.cons_append, List.getElem?_append,
    List.length_cons, Prod.mk.injEq]
  split
  · next hlt =>
      have hne : i ≠ xs.length + 1 := Nat.ne_of_lt hlt
      simp [hne]
  · next hge =>
      rw [List.getElem?_eq_none (Nat.le_of_not_lt hge)]
      by_cases hi : i = xs.length + 1
      · simp [hi, eq_comm]
      · have hsub : i - (xs.length + 1) ≠ 0 := by omega
        simp [hi, hsub]

theorem Reads.titled (h : Reads b cs b' []) (halike : ∀ s ∈ Marked.classes (marks cs), ClosesAlike s)
    (hb : b.Titled xs) : b'.Titled (xs ++ Marked.names (marks cs)) := by
  generalize hend : ([] : List Char) = last at h
  induction h generalizing xs with
  | done b cs =>
      subst hend
      simpa using hb
  | @item b b₂ b' cs rest last item hread hitem hpush h ih =>
      subst hend
      rcases Item.marks_item hread hitem.answered h.isSome_read halike with
        ⟨name, rfl, hmarks, -⟩ | ⟨hother, ms, hmarks, -, hnames⟩
      · have hmarks' : marks cs = [Marked.opener name] ++ marks rest := hmarks
        have hlast := ih (alike_of_marks halike hmarks') (hpush.titled_capture hb) rfl
        rw [hmarks, Marked.names_cons_opener]
        rwa [List.append_assoc] at hlast
      · have hlast := ih (alike_of_marks halike hmarks) (hpush.titled_other (Item.flat_of_read hread) hother hb) rfl
        rwa [hmarks, Marked.names_append, hnames, List.nil_append]

end Builder

end Patchwork.Regex
