import Mathlib.Algebra.BigOperators.Ring.List
import Mathlib.Algebra.Order.BigOperators.Group.List
import Mathlib.Algebra.Order.Ring.Nat
import Mathlib.Data.List.Nodup
import Mathlib.Data.List.Perm.Subperm
import Patchwork.Regex

namespace Patchwork.Regex

variable {texts : List (List Nat)}

def weight (texts : List (List Nat)) : Nat := (texts.map List.length).sum

theorem sum_insertBranch (f : List Nat → Nat) (c : Nat) (text : List Nat) (bs : List (Nat × List (List Nat))) :
    ((insertBranch c text bs).map fun b => (b.2.map f).sum).sum =
      f text + (bs.map fun b => (b.2.map f).sum).sum := by
  induction bs with
  | nil => simp [insertBranch]
  | cons b bs ih =>
      obtain ⟨d, ts⟩ := b
      unfold insertBranch
      split
      · simp [Nat.add_assoc]
      · rw [List.map_cons, List.sum_cons, ih, List.map_cons, List.sum_cons, Nat.add_left_comm]

theorem length_insertBranch_le (c : Nat) (text : List Nat) (bs : List (Nat × List (List Nat))) :
    (insertBranch c text bs).length ≤ bs.length + 1 := by
  induction bs with
  | nil => exact Nat.le_refl _
  | cons b bs ih =>
      obtain ⟨d, ts⟩ := b
      unfold insertBranch
      split
      · exact Nat.le_succ _
      · exact Nat.succ_le_succ ih

theorem weight_branches_le (texts : List (List Nat)) :
    ((branches texts).map fun b => weight b.2).sum + (branches texts).length ≤ weight texts := by
  induction texts with
  | nil => exact Nat.le_refl _
  | cons text texts ih =>
      cases text with
      | nil => simpa [branches, weight] using ih
      | cons c text =>
          have hsum := sum_insertBranch List.length c text (branches texts)
          have hlen := length_insertBranch_le c text (branches texts)
          simp only [branches, weight, List.map_cons, List.sum_cons, List.length_cons] at *
          omega

theorem sum_length_branches (hne : ∀ t ∈ texts, t ≠ []) :
    ((branches texts).map fun b => b.2.length).sum = texts.length := by
  induction texts with
  | nil => rfl
  | cons text texts ih =>
      obtain ⟨htext, hrest⟩ := List.forall_mem_cons.1 hne
      cases text with
      | nil => exact absurd rfl htext
      | cons c text =>
          have hsum := sum_insertBranch (fun _ => 1) c text (branches texts)
          simp only [List.map_const', List.sum_replicate_nat, Nat.mul_one, ih hrest] at hsum
          rw [branches, hsum, List.length_cons, Nat.add_comm]

theorem sublist_of_mem_insertBranch {c : Nat} {text : List Nat} {bs : List (Nat × List (List Nat))}
    (h : ∀ b ∈ bs, (b.2.map (b.1 :: ·)).Sublist texts) :
    ∀ b ∈ insertBranch c text bs, (b.2.map (b.1 :: ·)).Sublist ((c :: text) :: texts) := by
  induction bs with
  | nil => simp [insertBranch]
  | cons b bs ih =>
      obtain ⟨d, ts⟩ := b
      obtain ⟨hts, hbs⟩ := List.forall_mem_cons.1 h
      unfold insertBranch
      split
      · next heq =>
          subst heq
          exact List.forall_mem_cons.2 ⟨hts.cons_cons _, fun b hb => (hbs b hb).cons _⟩
      · exact List.forall_mem_cons.2 ⟨hts.cons _, ih hbs⟩

/-- The texts of a branch, with their first character, are some of the texts. -/
theorem sublist_of_mem_branches (texts : List (List Nat)) :
    ∀ b ∈ branches texts, (b.2.map (b.1 :: ·)).Sublist texts := by
  induction texts with
  | nil => simp [branches]
  | cons text texts ih =>
      cases text with
      | nil => exact fun b hb => (ih b hb).cons _
      | cons c text => exact sublist_of_mem_insertBranch ih

theorem trieRoom_succ (depth : Nat) (texts : List (List Nat)) : trieRoom (depth + 1) texts =
    stateRoom (branches texts).length + ((branches texts).map fun b => trieRoom depth b.2).sum := by
  have hfold : ∀ (bs : List (Nat × List (List Nat))) (room : Nat),
      bs.foldl (fun room b => room + trieRoom depth b.2) room =
        room + (bs.map fun b => trieRoom depth b.2).sum := by
    intro bs
    induction bs with
    | nil => exact fun room => rfl
    | cons b bs ih => exact fun room => by rw [List.foldl_cons, ih, List.map_cons, List.sum_cons, Nat.add_assoc]
  exact hfold _ _

theorem stateRoom_le (n : Nat) : stateRoom n ≤ 68 * n := by
  rcases n with - | - | n
  · exact Nat.le_refl _
  · exact Nat.le_refl _
  · simp only [stateRoom]
    omega

theorem stateRoom_mono {n m : Nat} (h : n ≤ m) : stateRoom n ≤ stateRoom m := by
  rcases n with - | - | n
  · exact Nat.zero_le _
  · rcases m with - | - | m
    · cases h
    · exact Nat.le_refl _
    · exact Nat.le_add_right _ _
  · rcases m with - | - | m
    · omega
    · omega
    · simp only [stateRoom]
      omega

theorem trieRoom_le (depth : Nat) (texts : List (List Nat)) : trieRoom depth texts ≤ 68 * weight texts := by
  induction depth generalizing texts with
  | zero => exact Nat.zero_le _
  | succ depth ih =>
      have hnext : ((branches texts).map fun b => trieRoom depth b.2).sum ≤
          68 * ((branches texts).map fun b => weight b.2).sum := by
        rw [← List.sum_map_mul_left]
        exact List.sum_le_sum fun b _ => ih b.2
      have hstate := stateRoom_le (branches texts).length
      have hweight := weight_branches_le texts
      rw [trieRoom_succ]
      omega

section Letters

variable {letters : List Nat}

theorem fst_insertBranch (c : Nat) (text : List Nat) (bs : List (Nat × List (List Nat))) :
    (insertBranch c text bs).map Prod.fst =
      if c ∈ bs.map Prod.fst then bs.map Prod.fst else bs.map Prod.fst ++ [c] := by
  induction bs with
  | nil => rfl
  | cons b bs ih =>
      obtain ⟨d, ts⟩ := b
      unfold insertBranch
      split
      · next heq => simp [heq]
      · next hne =>
          simp only [List.map_cons, ih, List.mem_cons, or_iff_right hne]
          split <;> rfl

theorem nodup_fst_branches (texts : List (List Nat)) : ((branches texts).map Prod.fst).Nodup := by
  induction texts with
  | nil => exact List.nodup_nil
  | cons text texts ih =>
      cases text with
      | nil => exact ih
      | cons c text =>
          rw [branches, fst_insertBranch]
          split
          · exact ih
          · next hc =>
              rw [← List.concat_eq_append]
              exact ih.concat hc

theorem exists_of_mem_fst_branches {c : Nat} (h : c ∈ (branches texts).map Prod.fst) : ∃ t ∈ texts, c ∈ t := by
  induction texts with
  | nil => cases h
  | cons text texts ih =>
      cases text with
      | nil =>
          obtain ⟨t, ht, hc⟩ := ih h
          exact ⟨t, List.mem_cons_of_mem _ ht, hc⟩
      | cons d text =>
          rw [branches, fst_insertBranch] at h
          have hcases : c ∈ (branches texts).map Prod.fst ∨ c = d := by
            split at h
            · exact .inl h
            · simpa using h
          rcases hcases with h | rfl
          · obtain ⟨t, ht, hc⟩ := ih h
            exact ⟨t, List.mem_cons_of_mem _ ht, hc⟩
          · exact ⟨_, List.mem_cons_self, List.mem_cons_self⟩

theorem length_branches_le (h : ∀ t ∈ texts, ∀ c ∈ t, c ∈ letters) : (branches texts).length ≤ letters.length := by
  rw [← (branches texts).length_map (f := Prod.fst)]
  refine ((nodup_fst_branches texts).subperm fun c hc => ?_).length_le
  obtain ⟨t, ht, hmem⟩ := exists_of_mem_fst_branches hc
  exact h t ht c hmem

theorem sum_branches_le {f g : List Nat → Nat} (h : ∀ c t, f t ≤ g (c :: t)) (texts : List (List Nat)) :
    ((branches texts).map fun b => (b.2.map f).sum).sum ≤ (texts.map g).sum := by
  induction texts with
  | nil => exact Nat.le_refl _
  | cons text texts ih =>
      rw [List.map_cons, List.sum_cons]
      cases text with
      | nil => exact Nat.le_trans ih (Nat.le_add_left _ _)
      | cons c text =>
          rw [branches, sum_insertBranch]
          exact Nat.add_le_add (h c text) ih

/-- The room of so many levels of an automaton in which each state leads on by ten letters. -/
def fullRoom : Nat → Nat
  | 0 => 0
  | levels + 1 => stateRoom 10 + 10 * fullRoom levels

/-- With ten letters, texts share their first levels, and have at most a state for each character behind these. -/
theorem trieRoom_le_of_letters (hletters : letters.length ≤ 10) (levels depth : Nat)
    (h : ∀ t ∈ texts, ∀ c ∈ t, c ∈ letters) :
    trieRoom depth texts ≤ fullRoom levels + 68 * (texts.map fun t => t.length - levels).sum := by
  induction levels generalizing depth texts with
  | zero => exact Nat.le_trans (trieRoom_le depth texts) (by simp [weight, fullRoom])
  | succ levels ih =>
      cases depth with
      | zero => exact Nat.zero_le _
      | succ depth =>
          have hlength : (branches texts).length ≤ 10 := Nat.le_trans (length_branches_le h) hletters
          have hstate := stateRoom_mono hlength
          have hbranch : ∀ b ∈ branches texts, trieRoom depth b.2 ≤
              fullRoom levels + 68 * (b.2.map fun t => t.length - levels).sum := by
            intro b hb
            refine ih depth fun t ht c hc => ?_
            have hmem := (sublist_of_mem_branches texts b hb).subset (List.mem_map_of_mem ht)
            exact h _ hmem c (List.mem_cons_of_mem _ hc)
          have hnext : ((branches texts).map fun b => trieRoom depth b.2).sum ≤
              (branches texts).length * fullRoom levels +
                68 * ((branches texts).map fun b => (b.2.map fun t => t.length - levels).sum).sum := by
            refine Nat.le_trans (List.sum_le_sum hbranch) (Nat.le_of_eq ?_)
            rw [List.sum_map_add, List.sum_map_mul_left, List.map_const', List.sum_replicate_nat]
          -- what a text has beyond the levels is counted once, in the branch that it goes to
          have hshared := sum_branches_le (f := fun t => t.length - levels) (g := fun t => t.length - (levels + 1))
            (fun c t => by rw [List.length_cons]; omega) texts
          have hupper := Nat.mul_le_mul_right (fullRoom levels) hlength
          rw [trieRoom_succ, fullRoom]
          omega

theorem textsRoom_le_of_letters (hletters : letters.length ≤ 10) (levels : Nat)
    (h : ∀ t ∈ texts, ∀ c ∈ t, c ∈ letters) :
    textsRoom texts ≤ fullRoom levels + 68 * (texts.map fun t => t.length - levels).sum := by
  have hreverse : ∀ t ∈ texts.map List.reverse, ∀ c ∈ t, c ∈ letters := by
    intro _ ht c hc
    obtain ⟨t, hmem, rfl⟩ := List.mem_map.1 ht
    exact h t hmem c (List.mem_reverse.1 hc)
  have hbackwards := fun depth => trieRoom_le_of_letters hletters levels depth hreverse
  simp only [List.map_map, Function.comp_def, List.length_reverse] at hbackwards
  exact Nat.max_le.2 ⟨trieRoom_le_of_letters hletters levels _ h, hbackwards _⟩

end Letters

theorem trieRoom_singleton (text : List Nat) : trieRoom text.length [text] = 68 * text.length := by
  induction text with
  | nil => rfl
  | cons c text ih =>
      have hone : branches [c :: text] = [(c, [text])] := rfl
      simp only [List.length_cons, trieRoom_succ, hone, List.map_cons, List.map_nil, List.sum_cons, List.sum_nil, ih,
        List.length_nil, stateRoom]
      omega

/-- Texts of one length that part within their first characters share no state behind these. -/
theorem le_trieRoom {d m : Nat} (hlen : ∀ t ∈ texts, t.length = d + m)
    (hdistinct : (texts.map (List.take d)).Nodup) : 68 * m * texts.length ≤ trieRoom (d + m) texts := by
  induction d generalizing texts with
  | zero =>
      rcases texts with - | ⟨t, - | ⟨u, texts⟩⟩
      · exact Nat.zero_le _
      · have hm : t.length = 0 + m := hlen t (List.mem_singleton_self t)
        rw [← hm, trieRoom_singleton, hm, Nat.zero_add, List.length_singleton, Nat.mul_one]
      · simp at hdistinct
  | succ d ih =>
      have hne : ∀ t ∈ texts, t ≠ [] := by
        rintro t ht rfl
        have h := hlen [] ht
        rw [List.length_nil] at h
        omega
      have hbranch : ∀ b ∈ branches texts, 68 * m * b.2.length ≤ trieRoom (d + m) b.2 := by
        intro b hb
        have hsub := sublist_of_mem_branches texts b hb
        refine ih (fun t ht => ?_) ?_
        · have h := hlen _ (hsub.subset (List.mem_map_of_mem ht))
          rw [List.length_cons] at h
          omega
        · have h := hdistinct.sublist (hsub.map (List.take (d + 1)))
          rw [List.map_map] at h
          exact List.Nodup.of_map (b.1 :: ·) (by rwa [List.map_map])
      have hsum : 68 * m * texts.length ≤ ((branches texts).map fun b => trieRoom (d + m) b.2).sum := by
        rw [← sum_length_branches hne, ← List.sum_map_mul_left]
        exact List.sum_le_sum hbranch
      rw [Nat.add_right_comm, trieRoom_succ]
      omega

theorem foldl_max_of_forall {n start : Nat} {ns : List Nat} (hstart : start ≤ n) (h : ∀ k ∈ ns, k = n)
    (hne : ns ≠ []) : ns.foldl max start = n := by
  induction ns generalizing start with
  | nil => exact absurd rfl hne
  | cons k ns ih =>
      obtain ⟨rfl, h⟩ := List.forall_mem_cons.1 h
      rw [List.foldl_cons, Nat.max_eq_right hstart]
      rcases List.eq_nil_or_concat ns with rfl | ⟨ns', last, rfl⟩
      · rfl
      · exact ih (Nat.le_refl _) h (by simp)

/-- Texts of one length whose last characters tell them apart share little of the automaton that runs backwards. -/
theorem le_textsRoom {d m : Nat} (hlen : ∀ t ∈ texts, t.length = d + m)
    (hdistinct : (texts.map fun t => t.reverse.take d).Nodup) : 68 * m * texts.length ≤ textsRoom texts := by
  rcases List.eq_nil_or_concat texts with rfl | ⟨init, last, htexts⟩
  · exact Nat.zero_le _
  · have hdepth : (texts.map List.length).foldl max 0 = d + m := by
      refine foldl_max_of_forall (Nat.zero_le _) ?_ (by simp [htexts])
      simpa using hlen
    have hreversed : ∀ t ∈ texts.map List.reverse, t.length = d + m := by
      intro _ h
      obtain ⟨t, ht, rfl⟩ := List.mem_map.1 h
      rw [List.length_reverse, hlen t ht]
    have hbackwards : 68 * m * texts.length ≤ trieRoom (d + m) (texts.map List.reverse) := by
      rw [← texts.length_map (f := List.reverse)]
      exact le_trieRoom hreversed (by rwa [List.map_map])
    rw [textsRoom, hdepth]
    exact Nat.le_trans hbackwards (Nat.le_max_right _ _)

end Patchwork.Regex
