import Patchwork.Proofs.Regex.Steps
import Patchwork.Proofs.Regex.Traces

namespace Patchwork.Regex

/-- The first form is the second, but for an empty form at its head or at the head of its first branch. -/
inductive Form.Pads : Form → Form → Prop where
  | same (f : Form) : Pads f f
  | head (f : Form) : Pads (.seq .empty f) f
  | branch (f g : Form) : Pads (.alt (.seq .empty f) g) (.alt f g)

inductive Form.Anchors : Form → Form → Prop where
  | plain (f : Form) : Anchors (.seq (.look .textStart) f) f
  | head (f : Form) : Anchors (.seq .empty (.seq (.look .textStart) f)) f

variable {f g : Form} {labels n : Nat} {waiting : List Task} {k : List Frame} {c : Cursor}
  {groups : List (Nat × Span)} {result : Option Task}

theorem Form.Pads.lastGroup_eq (h : f.Pads g) : f.lastGroup = g.lastGroup := by
  cases h with
  | same => rfl
  | head => exact Nat.zero_max _
  | branch => simp [lastGroup]

theorem Form.Anchors.lastGroup_eq (h : f.Anchors g) : f.lastGroup = g.lastGroup := by
  cases h with
  | plain => exact Nat.zero_max _
  | head => simp [lastGroup]

theorem Form.Pads.labels_eq (h : f.Pads g) : (f.assemble n).2 = (g.assemble n).2 := by
  cases h <;> rfl

theorem Form.Anchors.labels_eq (h : f.Anchors g) : (f.assemble n).2 = (g.assemble n).2 := by
  cases h <;> rfl

theorem Form.Pads.settles_iff (h : f.Pads g) :
    Settles labels .empty (⟨.run (f.assemble n).1 :: k, c, groups⟩ :: waiting) result ↔
      Settles labels .empty (⟨.run (g.assemble n).1 :: k, c, groups⟩ :: waiting) result := by
  -- an empty form at the head of a sequence takes two steps
  have hhead : ∀ {places : Places} {p : Program} {k : List Frame} {waiting : List Task},
      Settles labels places (⟨.run (.seq .empty p) :: k, c, groups⟩ :: waiting) result ↔
        Settles labels places (⟨.run p :: k, c, groups⟩ :: waiting) result :=
    (Settles.go_iff rfl).trans (Settles.go_iff rfl)
  cases h with
  | same => exact Iff.rfl
  | head => exact hhead
  | branch f g =>
      have hnew : (Std.TreeSet.empty : Places).contains (c.offset * labels + n) = false :=
        Std.TreeSet.contains_emptyc
      have hchoose : ∀ p : Program,
          Settles labels .empty
            (⟨.run (.choice n p (g.assemble (f.assemble (n + 1)).2).1) :: k, c, groups⟩ :: waiting) result ↔
          Settles labels (Std.TreeSet.empty.insert (c.offset * labels + n))
            (⟨.run p :: k, c, groups⟩ ::
              ⟨.run (g.assemble (f.assemble (n + 1)).2).1 :: k, c, groups⟩ :: waiting) result :=
        fun p => Settles.choose_iff rfl hnew
      exact (hchoose _).trans (hhead.trans (hchoose _).symm)

theorem Form.Anchors.settles_iff (h : f.Anchors g) (hc : c.previous = none) :
    Settles labels .empty (⟨.run (f.assemble n).1 :: k, c, groups⟩ :: waiting) result ↔
      Settles labels .empty (⟨.run (g.assemble n).1 :: k, c, groups⟩ :: waiting) result := by
  have hlook : ∀ p, Settles labels .empty
      (⟨.run (.seq (.look .textStart) p) :: k, c, groups⟩ :: waiting) result ↔
        Settles labels .empty (⟨.run p :: k, c, groups⟩ :: waiting) result := by
    intro p
    refine (Settles.go_iff rfl).trans (Settles.go_iff ?_)
    simp [Task.next, Look.holds, hc]
  cases h with
  | plain => exact hlook _
  | head => exact ((Settles.go_iff rfl).trans (Settles.go_iff rfl)).trans (hlook _)

theorem Form.Anchors.settles_none (h : f.Anchors g) (hc : c.previous ≠ none) :
    Settles labels .empty [⟨.run (f.assemble n).1 :: k, c, groups⟩] none := by
  have hlook : ∀ p, Settles labels .empty [⟨.run (.seq (.look .textStart) p) :: k, c, groups⟩] none := by
    intro p
    refine (Settles.go_iff rfl).2 ((Settles.stuck_iff ?_).2 .nil)
    simp [Task.next, Look.holds, hc]
  cases h with
  | plain => exact hlook _
  | head => exact (Settles.go_iff rfl).2 ((Settles.go_iff rfl).2 (hlook _))

variable {b : Form}

theorem Form.Anchors.runAt_eq (hg : g.Anchors b) (hf : f.Pads b) (hc : c.previous = none) :
    (Form.capture 0 g).machine.runAt c = (Form.capture 0 f).machine.runAt c := by
  have hlabels : (Form.capture 0 g).machine.labels = (Form.capture 0 f).machine.labels :=
    hg.labels_eq.trans hf.labels_eq.symm
  have hanchored := (Settles.go_iff rfl).1 ((Form.capture 0 g).settles_runAt c)
  have hpadded := (Settles.go_iff rfl).1 ((Form.capture 0 f).settles_runAt c)
  rw [hlabels] at hanchored
  exact ((hg.settles_iff hc).1 hanchored).unique (hf.settles_iff.1 hpadded)

theorem Form.Anchors.runAt_eq_none (h : g.Anchors b) (hc : c.previous ≠ none) :
    (Form.capture 0 g).machine.runAt c = none :=
  ((Settles.go_iff rfl).1 ((Form.capture 0 g).settles_runAt c)).unique (h.settles_none hc)

theorem Form.Anchors.runFrom_eq_none (h : g.Anchors b) {previous : Option Char} (hprevious : previous ≠ none)
    (offset : Nat) (cs : List Char) : (Form.capture 0 g).machine.runFrom previous offset cs = none := by
  induction cs generalizing previous offset with
  | nil => exact h.runAt_eq_none hprevious
  | cons x cs ih =>
      exact Option.or_eq_none_iff.2 ⟨h.runAt_eq_none hprevious, ih (by simp) _⟩

theorem Form.Anchors.runFrom_eq (h : g.Anchors b) (offset : Nat) (cs : List Char) :
    (Form.capture 0 g).machine.runFrom none offset cs = (Form.capture 0 g).machine.runAt ⟨none, cs, offset⟩ := by
  cases cs with
  | nil => rfl
  | cons x cs => exact (congrArg _ (h.runFrom_eq_none (by simp) _ cs)).trans Option.or_none

/-- What the anchored pattern finds is what the other finds at the start of the text. -/
theorem Form.Anchors.runFrom_eq_some_iff (hg : g.Anchors b) (hf : f.Pads b) {cs : List Char} {t : Task} :
    (Form.capture 0 g).machine.runFrom none 0 cs = some t ↔
      (Form.capture 0 f).machine.runFrom none 0 cs = some t ∧
        ∃ span, groupSpan t.groups 0 = some span ∧ span.start = 0 := by
  rw [hg.runFrom_eq, hg.runAt_eq hf rfl]
  have hstart : ∀ {t : Task}, (Form.capture 0 f).machine.runAt ⟨none, cs, 0⟩ = some t →
      ∃ span, groupSpan t.groups 0 = some span ∧ span.start = 0 := by
    intro t h
    obtain ⟨gs, -, hgroups⟩ := Form.exists_traces_of_capture (Machine.traces_of_runAt h)
    exact ⟨_, by rw [hgroups, groupSpan_cons, if_pos rfl], rfl⟩
  cases cs with
  | nil => exact ⟨fun h => ⟨h, hstart h⟩, And.left⟩
  | cons x cs =>
      refine ⟨fun h => ⟨Option.or_eq_some_iff.2 (.inl h), hstart h⟩, fun ⟨h, span, hspan, hzero⟩ => ?_⟩
      rcases Option.or_eq_some_iff.1 h with hat | ⟨-, hfrom⟩
      · exact hat
      · obtain ⟨c₀, gs, hle, -, hgroups⟩ := exists_traces_of_runFrom hfrom
        rw [hgroups, groupSpan_cons, if_pos rfl] at hspan
        cases hspan
        have hpos := x.utf8Size_pos
        dsimp only at hzero
        omega

end Patchwork.Regex
