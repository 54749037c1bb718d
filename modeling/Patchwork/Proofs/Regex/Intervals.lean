import Patchwork.Proofs.Regex.Traces
import Patchwork.Proofs.Regex.Trees

namespace Patchwork

namespace Span

def Encloses (s t : Span) : Prop := s.start ≤ t.start ∧ t.stop ≤ s.stop

instance (s t : Span) : Decidable (s.Encloses t) := inferInstanceAs (Decidable (_ ∧ _))

end Span

namespace Regex

/-- The most rounds of a repetition, of which two stand for any greater number. -/
def mostRounds (least : Nat) : Option Nat → Nat
  | none => 2
  | some most => min 2 (max least most)

theorem mostRounds_pred {least : Nat} {most : Option Nat} (hmore : 0 < least ∨ most ≠ some 0)
    (hone : mostRounds least most ≤ 1) :
    mostRounds least most = 1 ∧ mostRounds (least - 1) (most.map (· - 1)) = 0 := by
  cases most with
  | none => exact absurd hone (Nat.not_succ_le_self 1)
  | some most =>
      have hpos : 0 < least ∨ 0 < most :=
        hmore.imp_right fun hne => Nat.pos_of_ne_zero fun heq => hne (heq ▸ rfl)
      simp only [mostRounds, Option.map_some] at hone ⊢
      omega

namespace Tree

variable {i j : Nat} {t u : Tree}

def Confines (i j : Nat) : Tree → Prop
  | .repeat _ _ _ t => t.Confines i j
  | .group (.capture k _) t => k = i ∨ k ≠ j ∧ t.Confines i j
  | .group (.scoped _) t => t.Confines i j
  | .seq t u => t.Confines i j ∧ u.Confines i j
  | .alt t u => t.Confines i j ∧ u.Confines i j
  | _ => True

/-- How often a way through can pass through the group of that number, of which two or more stand for any
greater number. -/
def passes (i : Nat) : Tree → Nat
  | .repeat min max _ t => mostRounds min max * t.passes i
  | .group (.capture k _) t => (if k = i then 1 else 0) + t.passes i
  | .group (.scoped _) t => t.passes i
  | .seq t u => t.passes i + u.passes i
  | .alt t u => max (t.passes i) (u.passes i)
  | _ => 0

theorem mem_groups_of_mem_parts (hu : u ∈ t.parts) (hi : i ∈ u.groups) : i ∈ t.groups := by
  induction t with
  | «repeat» min max greedy t ih =>
      rcases List.mem_cons.1 hu with rfl | hu
      · exact hi
      · exact ih hu
  | group kind t ih =>
      rcases List.mem_cons.1 hu with rfl | hu
      · exact hi
      · rw [groups_group]
        exact List.mem_append_right _ (ih hu)
  | seq t v iht ihv | alt t v iht ihv =>
      rcases List.mem_cons.1 hu with rfl | hu
      · exact hi
      · exact List.mem_append.2 ((List.mem_append.1 hu).imp iht ihv)
  | empty | flags | literal | dot | assertion | «class» =>
      obtain rfl := List.mem_singleton.1 hu
      exact hi

theorem confines_of_not_mem (h : j ∉ t.groups) : t.Confines i j := by
  induction t with
  | «repeat» min max greedy t ih => exact ih h
  | group kind t ih =>
      cases kind with
      | capture k name =>
          obtain ⟨hk, ht⟩ := not_or.1 (mt List.mem_cons.2 h)
          exact .inr ⟨Ne.symm hk, ih ht⟩
      | «scoped» changes => exact ih h
  | seq t u iht ihu | alt t u iht ihu =>
      obtain ⟨ht, hu⟩ := not_or.1 (mt List.mem_append.2 h)
      exact ⟨iht ht, ihu hu⟩
  | empty | flags | literal | dot | assertion | «class» => trivial

/-- Where no two groups share a number, a group within another stands nowhere else. -/
theorem confines_of_mem_parts {name : Option String} (hnodup : t.groups.Nodup)
    (hpart : .group (.capture i name) u ∈ t.parts) (hj : j ∈ u.groups) : t.Confines i j := by
  have hmem : ∀ {v : Tree}, .group (.capture i name) u ∈ v.parts → j ∈ v.groups := fun hv =>
    mem_groups_of_mem_parts hv (List.mem_cons_of_mem _ hj)
  induction t with
  | «repeat» min max greedy t ih =>
      rcases List.mem_cons.1 hpart with heq | hpart
      · cases heq
      · exact ih hnodup hpart
  | group kind t ih =>
      cases kind with
      | capture k name =>
          obtain ⟨hk, hnodup⟩ := List.nodup_cons.1 hnodup
          rcases List.mem_cons.1 hpart with heq | hpart
          · cases heq
            exact .inl rfl
          · refine .inr ⟨?_, ih hnodup hpart⟩
            rintro rfl
            exact hk (hmem hpart)
      | «scoped» changes =>
          rcases List.mem_cons.1 hpart with heq | hpart
          · cases heq
          · exact ih hnodup hpart
  | seq t v iht ihv | alt t v iht ihv =>
      obtain ⟨ht, hv, hdisjoint⟩ := List.nodup_append'.1 hnodup
      rcases List.mem_cons.1 hpart with heq | hpart
      · cases heq
      -- the group lies on one side, and so what it holds is not on the other
      · rcases List.mem_append.1 hpart with hpart | hpart
        · exact ⟨iht ht hpart, confines_of_not_mem (hdisjoint (hmem hpart))⟩
        · exact ⟨confines_of_not_mem fun hmem' => hdisjoint hmem' (hmem hpart), ihv hv hpart⟩
  | empty | flags | literal | dot | assertion | «class» => cases List.mem_singleton.1 hpart

end Tree

namespace Form

variable {i j : Nat} {f : Form}

def Confines (i j : Nat) : Form → Prop
  | .capture k f => k = i ∨ k ≠ j ∧ f.Confines i j
  | .seq f g => f.Confines i j ∧ g.Confines i j
  | .alt f g => f.Confines i j ∧ g.Confines i j
  | .repeat _ _ _ f => f.Confines i j
  | _ => True

def passes (i : Nat) : Form → Nat
  | .capture k f => (if k = i then 1 else 0) + f.passes i
  | .seq f g => f.passes i + g.passes i
  | .alt f g => max (f.passes i) (g.passes i)
  | .repeat min max _ f => mostRounds min max * f.passes i
  | _ => 0

theorem confines_repeated (h : f.Confines i j) (min : Nat) (max : Option Nat) (greedy : Bool) :
    (repeated min max greedy f).Confines i j := by
  unfold repeated
  split
  split
  · trivial
  · exact h
  · exact h

theorem passes_repeated (min : Nat) (max : Option Nat) (greedy : Bool) (f : Form) (i : Nat) :
    (repeated min max greedy f).passes i ≤ mostRounds min max * f.passes i := by
  have hfew : mostRounds (Nat.min min 1) (some (Nat.min (max.getD 1) 1)) ≤ mostRounds min max := by
    cases max with
    | none => exact Nat.min_le_left _ _
    | some max =>
        have hleast : Nat.min min 1 ≤ min := Nat.min_le_left _ _
        have hmost : Nat.min max 1 ≤ max := Nat.min_le_left _ _
        simp only [mostRounds, Option.getD_some]
        omega
  unfold repeated
  split
  next min' max' heq =>
    have hle : mostRounds min' max' ≤ mostRounds min max := by
      split at heq
      · cases heq
        exact hfew
      · cases heq
        exact Nat.le_refl _
    refine Nat.le_trans ?_ (Nat.mul_le_mul_right (f.passes i) hle)
    split
    · exact Nat.zero_le _
    · exact Nat.le_of_eq (Nat.one_mul _).symm
    · exact Nat.le_refl _

theorem confines_of_resolves {t : Tree} {m after : Modes} (h : t.Resolves m f after)
    (ht : t.Confines i j) : f.Confines i j := by
  induction h with
  | empty | flags | assertion | literal | dot | «class» => trivial
  | «repeat» _ _ _ _ ih => exact confines_repeated (ih ht) _ _ _
  | capture _ _ _ ih => exact ht.imp_right (And.imp_right ih)
  | «scoped» _ ih => exact ih ht
  | seq _ _ iht ihu | alt _ _ iht ihu => exact ⟨iht ht.1, ihu ht.2⟩

/-- A way through the form passes through no group more often than one through the tree. -/
theorem passes_le_of_resolves {t : Tree} {m after : Modes} (h : t.Resolves m f after) :
    f.passes i ≤ t.passes i := by
  induction h with
  | empty | flags | assertion | literal | dot | «class» => exact Nat.le_refl _
  | «repeat» _ _ _ _ ih => exact Nat.le_trans (passes_repeated _ _ _ _ _) (Nat.mul_le_mul_left _ ih)
  | capture _ _ _ ih => exact Nat.add_le_add_left ih _
  | «scoped» _ ih => exact ih
  | seq _ _ iht ihu => exact Nat.add_le_add iht ihu
  | alt _ _ iht ihu =>
      exact Nat.max_le.2 ⟨Nat.le_trans iht (Nat.le_max_left _ _), Nat.le_trans ihu (Nat.le_max_right _ _)⟩

end Form

section Spans

variable {i j : Nat} {gs hs : List (Nat × Span)} {span : Span}

theorem groupSpan_append (hs gs : List (Nat × Span)) (i : Nat) :
    groupSpan (hs ++ gs) i = (groupSpan hs i).or (groupSpan gs i) := by
  rw [groupSpan, List.find?_append, Option.map_or]
  rfl

theorem mem_of_groupSpan (h : groupSpan gs i = some span) : (i, span) ∈ gs := by
  obtain ⟨⟨k, span'⟩, hfind, rfl⟩ := Option.map_eq_some_iff.1 h
  obtain rfl : k = i := by simpa using List.find?_some hfind
  exact List.mem_of_find?_eq_some hfind

theorem groupSpan_of_mem (h : (i, span) ∈ gs) (hcount : gs.countP (·.1 = i) ≤ 1) :
    groupSpan gs i = some span := by
  induction gs with
  | nil => cases h
  | cons g gs ih =>
      obtain ⟨k, span'⟩ := g
      rw [groupSpan_cons]
      rcases List.mem_cons.1 h with heq | h
      · cases heq
        rw [if_pos rfl]
      · have hpos : 0 < gs.countP (·.1 = i) := List.countP_pos_iff.2 ⟨_, h, by simp⟩
        by_cases hk : k = i
        · rw [List.countP_cons_of_pos (by simpa using hk)] at hcount
          omega
        · rw [if_neg hk]
          rw [List.countP_cons_of_neg (by simpa using hk)] at hcount
          exact ih h hcount

theorem exists_encloses_append
    (hgs : (j, span) ∈ gs → ∃ outer, (i, outer) ∈ gs ∧ outer.Encloses span)
    (hhs : (j, span) ∈ hs → ∃ outer, (i, outer) ∈ hs ∧ outer.Encloses span) (hj : (j, span) ∈ hs ++ gs) :
    ∃ outer, (i, outer) ∈ hs ++ gs ∧ outer.Encloses span := by
  rcases List.mem_append.1 hj with hj | hj
  · obtain ⟨outer, houter, hencloses⟩ := hhs hj
    exact ⟨outer, List.mem_append_left _ houter, hencloses⟩
  · obtain ⟨outer, houter, hencloses⟩ := hgs hj
    exact ⟨outer, List.mem_append_right _ houter, hencloses⟩

structure Between (lo hi : Nat) (gs : List (Nat × Span)) : Prop where
  le : lo ≤ hi
  spans : ∀ g ∈ gs, lo ≤ g.2.start ∧ g.2.start ≤ g.2.stop ∧ g.2.stop ≤ hi

theorem Between.append {lo mid hi : Nat} (hgs : Between lo mid gs) (hhs : Between mid hi hs) :
    Between lo hi (hs ++ gs) := by
  refine ⟨Nat.le_trans hgs.le hhs.le, fun g hg => ?_⟩
  rcases List.mem_append.1 hg with hg | hg
  · obtain ⟨hstart, hle, hstop⟩ := hhs.spans g hg
    exact ⟨Nat.le_trans hgs.le hstart, hle, hstop⟩
  · obtain ⟨hstart, hle, hstop⟩ := hgs.spans g hg
    exact ⟨hstart, hle, Nat.le_trans hstop hhs.le⟩

/-- The latest span of the group `j` lies within that of the group `i`, or ahead of it. -/
def Trails (i j : Nat) (gs : List (Nat × Span)) : Prop :=
  ∀ span, groupSpan gs j = some span →
    ∃ outer, groupSpan gs i = some outer ∧ (outer.Encloses span ∨ span.stop ≤ outer.start)

/-- The later of two ways decides, unless only the earlier closes the group `j`. -/
theorem Trails.append {lo mid hi : Nat} (hgs : Trails i j gs) (hhs : Trails i j hs)
    (hbefore : Between lo mid gs) (hafter : Between mid hi hs) : Trails i j (hs ++ gs) := by
  intro span hj
  rw [groupSpan_append, Option.or_eq_some_iff] at hj
  rw [groupSpan_append]
  rcases hj with hj | ⟨-, hj⟩
  · obtain ⟨outer, houter, hplace⟩ := hhs span hj
    exact ⟨outer, by rw [houter, Option.some_or], hplace⟩
  · cases hlater : groupSpan hs i with
    | none => exact hgs span hj
    | some later =>
        refine ⟨later, rfl, .inr ?_⟩
        obtain ⟨-, -, hstop⟩ := hbefore.spans _ (mem_of_groupSpan hj)
        obtain ⟨hstart, -, -⟩ := hafter.spans _ (mem_of_groupSpan hlater)
        exact Nat.le_trans hstop hstart

end Spans

namespace Form.Traces

variable {i j : Nat} {f : Form} {c c' : Cursor} {gs : List (Nat × Span)} {span : Span}

theorem between (h : f.Traces c c' gs) : Between c.offset c'.offset gs := by
  induction h with
  | empty | look | leave => exact ⟨Nat.le_refl _, by simp⟩
  | @chars s x c c' hstep hx =>
      refine ⟨?_, by simp⟩
      unfold Cursor.advance? at hstep
      split at hstep
      · cases hstep
      · cases hstep
        exact Nat.le_add_right _ _
  | capture _ ih =>
      exact ⟨ih.le, List.forall_mem_cons.2 ⟨⟨Nat.le_refl _, ih.le, Nat.le_refl _⟩, ih.spans⟩⟩
  | first _ ih | second _ ih => exact ih
  | seq _ _ ihf ihg => exact ihf.append ihg
  | again _ _ _ ihf ihrest => exact ihf.append ihrest

/-- What stands within a group only is closed within some span of that group. -/
theorem exists_encloses (h : f.Traces c c' gs) (hf : f.Confines i j) (hij : i ≠ j) (hj : (j, span) ∈ gs) :
    ∃ outer, (i, outer) ∈ gs ∧ outer.Encloses span := by
  induction h with
  | empty | chars | look | leave => cases hj
  | @capture k f c c' gs hway ih =>
      have hrest : k ≠ j → (j, span) ∈ gs := fun hk =>
        (List.mem_cons.1 hj).resolve_left fun heq => hk (Prod.mk.inj heq).1.symm
      rcases hf with rfl | ⟨hk, hf⟩
      · obtain ⟨hstart, -, hstop⟩ := hway.between.spans _ (hrest hij)
        exact ⟨_, List.mem_cons_self, hstart, hstop⟩
      · obtain ⟨outer, houter, hencloses⟩ := ih hf (hrest hk)
        exact ⟨outer, List.mem_cons_of_mem _ houter, hencloses⟩
  | first _ ih => exact ih hf.1 hj
  | second _ ih => exact ih hf.2 hj
  | seq _ _ ihf ihg => exact exists_encloses_append (ihf hf.1) (ihg hf.2) hj
  | again _ _ _ ihf ihrest => exact exists_encloses_append (ihf hf) (ihrest hf) hj

/-- What stands within a group only was closed last within the latest span of that group, or ahead of it. -/
theorem trails (h : f.Traces c c' gs) (hf : f.Confines i j) (hij : i ≠ j) : Trails i j gs := by
  induction h with
  | empty | chars | look | leave =>
      intro span hj
      cases hj
  | @capture k f c c' gs hway ih =>
      intro span hj
      rw [groupSpan_cons] at hj ⊢
      by_cases hk : k = j
      · exact absurd hk (hf.resolve_left fun hi => hij (hi.symm.trans hk)).1
      · rw [if_neg hk] at hj
        by_cases hi : k = i
        · obtain ⟨hstart, -, hstop⟩ := hway.between.spans _ (mem_of_groupSpan hj)
          exact ⟨_, if_pos hi, .inl ⟨hstart, hstop⟩⟩
        · rw [if_neg hi]
          exact ih (hf.resolve_left hi).2 span hj
  | first _ ih => exact ih hf.1
  | second _ ih => exact ih hf.2
  | seq hway hway' ihf ihg => exact (ihf hf.1).append (ihg hf.2) hway.between hway'.between
  | again _ hway hway' ihf ihrest => exact (ihf hf).append (ihrest hf) hway.between hway'.between

theorem countP_le_passes (h : f.Traces c c' gs) (honce : f.passes i ≤ 1) :
    gs.countP (·.1 = i) ≤ f.passes i := by
  induction h with
  | empty | chars | look | leave => exact Nat.zero_le _
  | @capture k f c c' gs hway ih =>
      rw [passes] at honce ⊢
      have hcount := ih (Nat.le_trans (Nat.le_add_left _ _) honce)
      by_cases hk : k = i
      · rw [List.countP_cons_of_pos (by simpa using hk), if_pos hk]
        omega
      · rw [List.countP_cons_of_neg (by simpa using hk), if_neg hk]
        omega
  | first _ ih =>
      obtain ⟨hf, -⟩ := Nat.max_le.1 honce
      exact Nat.le_trans (ih hf) (Nat.le_max_left _ _)
  | second _ ih =>
      obtain ⟨-, hg⟩ := Nat.max_le.1 honce
      exact Nat.le_trans (ih hg) (Nat.le_max_right _ _)
  | seq _ _ ihf ihg =>
      rw [passes] at honce ⊢
      have hcount := ihf (Nat.le_trans (Nat.le_add_right _ _) honce)
      have hcount' := ihg (Nat.le_trans (Nat.le_add_left _ _) honce)
      rw [List.countP_append]
      omega
  | @again min max greedy f c c' c'' gs hs hmore _ _ ihf ihrest =>
      rw [passes] at honce ihrest ⊢
      rw [List.countP_append]
      rcases Nat.eq_zero_or_pos (f.passes i) with hzero | hpos
      · rw [hzero] at ihf ihrest ⊢
        have hcount := ihf (Nat.zero_le _)
        have hcount' := ihrest (Nat.zero_le _)
        omega
      -- no more than one round is left, so the group is closed in none of those that follow
      · have hone : mostRounds min max ≤ 1 := Nat.le_trans (Nat.le_mul_of_pos_right _ hpos) honce
        obtain ⟨hround, hnone⟩ := mostRounds_pred hmore hone
        rw [hround] at honce ⊢
        rw [hnone, Nat.zero_mul] at ihrest
        have hcount := ihf (by omega)
        have hcount' := ihrest (Nat.zero_le _)
        omega

theorem encloses_of_passes (h : f.Traces c c' gs) (hf : f.Confines i j) (hij : i ≠ j)
    (honce : f.passes i ≤ 1) (hj : groupSpan gs j = some span) :
    ∃ outer, groupSpan gs i = some outer ∧ outer.Encloses span := by
  obtain ⟨outer, houter, hencloses⟩ := h.exists_encloses hf hij (mem_of_groupSpan hj)
  exact ⟨outer, groupSpan_of_mem houter (Nat.le_trans (h.countP_le_passes honce) honce), hencloses⟩

end Form.Traces

end Regex

end Patchwork
