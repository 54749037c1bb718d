import Patchwork.Proofs.Regex.Attempts

namespace Patchwork.Regex

open Unicode (CharSet)

/-- The form can be followed from one place to another; the groups are those that are closed on the way,
latest first. -/
inductive Form.Traces : Form → Cursor → Cursor → List (Nat × Span) → Prop where
  | empty {c : Cursor} : Traces .empty c c []
  | chars {s : CharSet} {x : Char} {c c' : Cursor} (hstep : c.advance? = some (x, c'))
      (hx : s.contains x) : Traces (.chars s) c c' []
  | look {l : Look} {c : Cursor} (hl : l.holds c) : Traces (.look l) c c []
  | capture {i : Nat} {f : Form} {c c' : Cursor} {gs : List (Nat × Span)} (hf : Traces f c c' gs) :
      Traces (.capture i f) c c' ((i, ⟨c.offset, c'.offset⟩) :: gs)
  | seq {f g : Form} {c c' c'' : Cursor} {gs hs : List (Nat × Span)} (hf : Traces f c c' gs)
      (hg : Traces g c' c'' hs) : Traces (.seq f g) c c'' (hs ++ gs)
  | first {f g : Form} {c c' : Cursor} {gs : List (Nat × Span)} (hf : Traces f c c' gs) :
      Traces (.alt f g) c c' gs
  | second {f g : Form} {c c' : Cursor} {gs : List (Nat × Span)} (hg : Traces g c c' gs) :
      Traces (.alt f g) c c' gs
  | leave {max : Option Nat} {greedy : Bool} {f : Form} {c : Cursor} :
      Traces (.repeat 0 max greedy f) c c []
  /-- The least number of rounds is made even where the greatest is less. -/
  | again {min : Nat} {max : Option Nat} {greedy : Bool} {f : Form} {c c' c'' : Cursor}
      {gs hs : List (Nat × Span)} (hmore : 0 < min ∨ max ≠ some 0) (hf : Traces f c c' gs)
      (hrest : Traces (.repeat (min - 1) (max.map (· - 1)) greedy f) c' c'' hs) :
      Traces (.repeat min max greedy f) c c'' (hs ++ gs)

inductive Program.Traces : Program → Cursor → Cursor → List (Nat × Span) → Prop where
  | empty {c : Cursor} : Traces .empty c c []
  | chars {s : CharSet} {x : Char} {c c' : Cursor} (hstep : c.advance? = some (x, c'))
      (hx : s.contains x) : Traces (.chars s) c c' []
  | look {l : Look} {c : Cursor} (hl : l.holds c) : Traces (.look l) c c []
  | capture {i : Nat} {p : Program} {c c' : Cursor} {gs : List (Nat × Span)} (hp : Traces p c c' gs) :
      Traces (.capture i p) c c' ((i, ⟨c.offset, c'.offset⟩) :: gs)
  | seq {p q : Program} {c c' c'' : Cursor} {gs hs : List (Nat × Span)} (hp : Traces p c c' gs)
      (hq : Traces q c' c'' hs) : Traces (.seq p q) c c'' (hs ++ gs)
  | first {label : Nat} {p q : Program} {c c' : Cursor} {gs : List (Nat × Span)} (hp : Traces p c c' gs) :
      Traces (.choice label p q) c c' gs
  | second {label : Nat} {p q : Program} {c c' : Cursor} {gs : List (Nat × Span)} (hq : Traces q c c' gs) :
      Traces (.choice label p q) c c' gs
  | leave {label : Nat} {greedy : Bool} {p : Program} {c : Cursor} : Traces (.loop label greedy p) c c []
  | again {label : Nat} {greedy : Bool} {p : Program} {c c' c'' : Cursor} {gs hs : List (Nat × Span)}
      (hp : Traces p c c' gs) (hloop : Traces (.loop label greedy p) c' c'' hs) :
      Traces (.loop label greedy p) c c'' (hs ++ gs)

variable {c c' c'' : Cursor} {gs hs : List (Nat × Span)} {t t' : Task}

inductive Pending : List Frame → Cursor → Cursor → List (Nat × Span) → Prop where
  | done {c : Cursor} : Pending [] c c []
  | run {p : Program} {k : List Frame} {c c' c'' : Cursor} {gs hs : List (Nat × Span)}
      (hp : p.Traces c c' gs) (hk : Pending k c' c'' hs) : Pending (.run p :: k) c c'' (hs ++ gs)
  | close {i start : Nat} {k : List Frame} {c c' : Cursor} {gs : List (Nat × Span)}
      (hk : Pending k c c' gs) : Pending (.close i start :: k) c c' (gs ++ [(i, ⟨start, c.offset⟩)])

namespace Task

def LeadsTo (t last : Task) : Prop :=
  ∃ gs, Pending t.frames t.cursor last.cursor gs ∧ last.groups = gs ++ t.groups

theorem leadsTo_of_frames {k : List Frame} {groups : List (Nat × Span)} (h : Pending k c t.cursor gs)
    (hgroups : t.groups = gs ++ groups) : LeadsTo ⟨k, c, groups⟩ t := ⟨gs, h, hgroups⟩

theorem Steps.leadsTo {last : Task} (h : t.Steps t') (hlast : t'.LeadsTo last) : t.LeadsTo last := by
  obtain ⟨hs, hpending, hgroups⟩ := hlast
  cases h with
  | close => exact leadsTo_of_frames (.close hpending) (by rw [hgroups, List.append_assoc]; rfl)
  | empty => exact leadsTo_of_frames (.run .empty hpending) (by rw [hgroups, List.append_nil])
  | chars hstep hx => exact leadsTo_of_frames (.run (.chars hstep hx) hpending) (by rw [hgroups, List.append_nil])
  | look hl => exact leadsTo_of_frames (.run (.look hl) hpending) (by rw [hgroups, List.append_nil])
  | capture =>
      cases hpending with
      | run hp hrest =>
          cases hrest with
          | close hk => exact leadsTo_of_frames (.run (.capture hp) hk) (by rw [hgroups]; simp)
  | seq =>
      cases hpending with
      | run hp hrest =>
          cases hrest with
          | run hq hk => exact leadsTo_of_frames (.run (.seq hp hq) hk) (by rw [hgroups]; simp)
  | first =>
      cases hpending with
      | run hp hk => exact leadsTo_of_frames (.run (.first hp) hk) hgroups
  | second =>
      cases hpending with
      | run hq hk => exact leadsTo_of_frames (.run (.second hq) hk) hgroups
  | again =>
      cases hpending with
      | run hp hrest =>
          cases hrest with
          | run hloop hk => exact leadsTo_of_frames (.run (.again hp hloop) hk) (by rw [hgroups]; simp)
  | leave => exact leadsTo_of_frames (.run .leave hpending) (by rw [hgroups, List.append_nil])

theorem Reaches.leadsTo (h : t.Reaches t') (hframes : t'.frames = []) : t.LeadsTo t' := by
  induction h using Relation.ReflTransGen.head_induction_on with
  | refl => exact ⟨[], by rw [hframes]; exact .done, rfl⟩
  | head hstep _ ih => exact hstep.leadsTo ih

end Task

theorem exists_leadsTo_of_explore {labels fuel : Nat} {places : Places} {waiting : List Task}
    (h : explore labels fuel places waiting = some t) : ∃ t₀ ∈ waiting, t₀.LeadsTo t := by
  obtain ⟨t₀, hmem, hreaches, hframes⟩ := exists_reaches_of_explore h
  exact ⟨t₀, hmem, hreaches.leadsTo hframes⟩

namespace Machine

variable {m : Machine}

theorem traces_of_runAt (h : m.runAt c = some t) : m.program.Traces c t.cursor t.groups := by
  obtain ⟨t₀, hmem, gs, hpending, hgroups⟩ := exists_leadsTo_of_explore h
  obtain rfl := List.mem_singleton.1 hmem
  rw [List.append_nil] at hgroups
  cases hpending with
  | run hp hk =>
      cases hk with
      | done => exact hgroups ▸ hp

theorem exists_traces_of_runFrom {previous : Option Char} {offset : Nat} {cs : List Char}
    (h : m.runFrom previous offset cs = some t) :
    ∃ c, offset ≤ c.offset ∧ m.program.Traces c t.cursor t.groups := by
  induction cs generalizing previous offset with
  | nil => exact ⟨_, Nat.le_refl _, traces_of_runAt h⟩
  | cons x cs ih =>
      rcases Option.or_eq_some_iff.1 h with hat | ⟨-, hfrom⟩
      · exact ⟨_, Nat.le_refl _, traces_of_runAt hat⟩
      · obtain ⟨c, hle, htraces⟩ := ih hfrom
        exact ⟨c, Nat.le_of_add_right_le hle, htraces⟩

end Machine

namespace Form

inductive Rounds (f : Form) : Nat → Cursor → Cursor → List (Nat × Span) → Prop where
  | zero {c : Cursor} : Rounds f 0 c c []
  | succ {n : Nat} {c c' c'' : Cursor} {gs hs : List (Nat × Span)} (hf : f.Traces c c' gs)
      (hrest : Rounds f n c' c'' hs) : Rounds f (n + 1) c c'' (hs ++ gs)

variable {f : Form} {m n : Nat}

theorem Traces.round (h : f.Traces c c' gs) : f.Rounds 1 c c' gs := .succ h .zero

theorem Rounds.append (h : f.Rounds m c c' gs) (h' : f.Rounds n c' c'' hs) :
    f.Rounds (m + n) c c'' (hs ++ gs) := by
  induction h with
  | zero =>
      rw [Nat.zero_add, List.append_nil]
      exact h'
  | succ hf _ ih =>
      rw [← List.append_assoc, Nat.add_right_comm]
      exact .succ hf (ih h')

theorem Rounds.traces {min : Nat} {max : Option Nat} (h : f.Rounds n c c' gs) (hmin : min ≤ n)
    (hmax : ∀ k, max = some k → n ≤ min ∨ n ≤ k) (greedy : Bool) :
    (Form.repeat min max greedy f).Traces c c' gs := by
  induction h generalizing min max with
  | zero =>
      obtain rfl := Nat.le_zero.1 hmin
      exact .leave
  | @succ n c c' c'' gs hs hf _ ih =>
      refine .again ?_ hf (ih (Nat.sub_le_of_le_add hmin) fun k hk => ?_)
      · rcases Nat.eq_zero_or_pos min with rfl | hpos
        · refine .inr fun hzero => ?_
          have := hmax 0 hzero
          omega
        · exact .inl hpos
      · obtain ⟨k', hk', rfl⟩ := Option.map_eq_some_iff.1 hk
        have := hmax k' hk'
        omega

end Form

namespace Program

theorem Traces.exists_rounds {f : Form} {p : Program} {label : Nat} {greedy : Bool}
    (hp : ∀ {c c' gs}, p.Traces c c' gs → f.Traces c c' gs) (h : (loop label greedy p).Traces c c' gs) :
    ∃ n, f.Rounds n c c' gs := by
  generalize hloop : loop label greedy p = q at h
  induction h with
  | leave => exact ⟨0, .zero⟩
  | again hround _ _ ih =>
      cases hloop
      obtain ⟨n, hrest⟩ := ih rfl
      exact ⟨n + 1, .succ (hp hround) hrest⟩
  | empty | chars | look | capture | seq | first | second => cases hloop

namespace Labelled

variable {p q : Labelled} {f g : Form} {k n : Nat} {greedy : Bool}

/-- Whatever labels it is given, the program can be followed only as the form can. -/
def Renders (p : Labelled) (f : Form) : Prop :=
  ∀ n {c c' gs}, (p n).1.Traces c c' gs → f.Traces c c' gs

theorem Renders.seq (hp : p.Renders f) (hq : q.Renders g) : (Labelled.seq p q).Renders (.seq f g) := by
  intro n c c' gs h
  cases h with
  | seq h h' => exact .seq (hp n h) (hq _ h')

theorem Renders.choice (hp : p.Renders f) (hq : q.Renders g) : (Labelled.choice p q).Renders (.alt f g) := by
  intro n c c' gs h
  cases h with
  | first h => exact .first (hp (n + 1) h)
  | second h => exact .second (hq _ h)

theorem exists_of_optional (h : (optional greedy p n).1.Traces c c' gs) :
    (∃ n, (p n).1.Traces c c' gs) ∨ c' = c ∧ gs = [] := by
  have hempty : Program.empty.Traces c c' gs → c' = c ∧ gs = [] := by
    intro h
    cases h
    exact ⟨rfl, rfl⟩
  unfold optional at h
  split at h
  · cases h with
    | first h => exact .inl ⟨_, h⟩
    | second h => exact .inr (hempty h)
  · cases h with
    | first h => exact .inr (hempty h)
    | second h => exact .inl ⟨_, h⟩

theorem Renders.rounds_of_times (hp : p.Renders f) (h : (times p k n).1.Traces c c' gs) :
    f.Rounds k c c' gs := by
  induction k using times.induct generalizing n c c' gs with
  | case1 =>
      cases h
      exact .zero
  | case2 => exact (hp n h).round
  | case3 k ih =>
      cases h with
      | seq hround hrest => exact .succ (hp n hround) (ih hrest)

theorem Renders.exists_rounds_of_atMost (hp : p.Renders f) (h : (atMost greedy p k n).1.Traces c c' gs) :
    ∃ j ≤ k, f.Rounds j c c' gs := by
  induction k generalizing n c c' gs with
  | zero =>
      cases h
      exact ⟨0, Nat.le_refl 0, .zero⟩
  | succ k ih =>
      rcases exists_of_optional h with ⟨n, h⟩ | ⟨rfl, rfl⟩
      · cases h with
        | seq hround hrest =>
            obtain ⟨j, hj, hrest⟩ := ih hrest
            exact ⟨j + 1, Nat.succ_le_succ hj, .succ (hp n hround) hrest⟩
      · exact ⟨0, Nat.zero_le _, .zero⟩

theorem Renders.exists_rounds_of_plus (hp : p.Renders f) (h : (plus greedy p n).1.Traces c c' gs) :
    ∃ j, f.Rounds (j + 1) c c' gs := by
  cases h with
  | seq hround hloop =>
      obtain ⟨j, hrest⟩ := hloop.exists_rounds (hp (n + 1))
      exact ⟨j, .succ (hp (n + 1) hround) hrest⟩

theorem Renders.exists_rounds_of_anyNumber (hp : p.Renders f) {consumes : Bool}
    (h : (anyNumber greedy consumes p n).1.Traces c c' gs) : ∃ j, f.Rounds j c c' gs := by
  unfold anyNumber at h
  split at h
  · exact Traces.exists_rounds (hp (n + 1)) h
  · rcases exists_of_optional h with ⟨n, h⟩ | ⟨rfl, rfl⟩
    · obtain ⟨j, hrounds⟩ := hp.exists_rounds_of_plus h
      exact ⟨j + 1, hrounds⟩
    · exact ⟨0, .zero⟩

theorem Renders.repetition (hp : p.Renders f) (min : Nat) (max : Option Nat) (greedy consumes : Bool) :
    (repetition min max greedy consumes p).Renders (.repeat min max greedy f) := by
  intro n c c' gs h
  unfold Labelled.repetition at h
  split at h
  · obtain ⟨j, hrounds⟩ := hp.exists_rounds_of_anyNumber h
    exact hrounds.traces (Nat.zero_le _) (by simp) greedy
  · obtain ⟨j, hrounds⟩ := hp.exists_rounds_of_plus h
    exact hrounds.traces (Nat.le_add_left _ _) (by simp) greedy
  · next k =>
      cases h with
      | seq hfirst hrest =>
          obtain ⟨j, hrest⟩ := hp.exists_rounds_of_plus hrest
          exact ((hp.rounds_of_times hfirst).append hrest).traces (by omega) (by simp) greedy
  · next min max =>
      split at h
      · next heq =>
          subst heq
          exact (hp.rounds_of_times h).traces (Nat.le_refl _) (fun _ _ => .inl (Nat.le_refl _)) greedy
      · split at h
        · next hzero =>
            obtain ⟨j, hj, hrounds⟩ := hp.exists_rounds_of_atMost h
            subst hzero
            refine hrounds.traces (Nat.zero_le _) ?_ greedy
            rintro k ⟨⟩
            exact .inr hj
        · cases h with
          | seq hfirst hrest =>
              obtain ⟨j, hj, hrest⟩ := hp.exists_rounds_of_atMost hrest
              refine ((hp.rounds_of_times hfirst).append hrest).traces (Nat.le_add_right _ _) ?_ greedy
              rintro k ⟨⟩
              omega

end Labelled

end Program

/-- A program can be followed only as its form can. -/
theorem Form.renders_assemble (f : Form) : f.assemble.Renders f := by
  induction f with
  | empty =>
      intro n c c' gs h
      cases h
      exact .empty
  | chars s =>
      intro n c c' gs h
      cases h with
      | chars hstep hx => exact .chars hstep hx
  | look l =>
      intro n c c' gs h
      cases h with
      | look hl => exact .look hl
  | capture i f ih =>
      intro n c c' gs h
      cases h with
      | capture h => exact .capture (ih n h)
  | seq f g ihf ihg => exact ihf.seq ihg
  | alt f g ihf ihg => exact ihf.choice ihg
  | «repeat» min max greedy f ih => exact ih.repetition min max greedy f.consumes

theorem Form.exists_traces_of_capture {form : Form}
    (h : (Form.capture 0 form).machine.program.Traces c t.cursor t.groups) :
    ∃ gs, form.Traces c t.cursor gs ∧ t.groups = (0, ⟨c.offset, t.cursor.offset⟩) :: gs := by
  have hwhole := (Form.capture 0 form).renders_assemble 0 h
  generalize hgroups : t.groups = groups at hwhole
  cases hwhole with
  | capture hform => exact ⟨_, hform, rfl⟩

theorem exists_traces_of_runFrom {form : Form} {previous : Option Char} {offset : Nat} {cs : List Char}
    (h : (Form.capture 0 form).machine.runFrom previous offset cs = some t) :
    ∃ c₀ gs, offset ≤ c₀.offset ∧ form.Traces c₀ t.cursor gs ∧
      t.groups = (0, ⟨c₀.offset, t.cursor.offset⟩) :: gs := by
  obtain ⟨c₀, hle, htraces⟩ := Machine.exists_traces_of_runFrom h
  obtain ⟨gs, hform, hgroups⟩ := Form.exists_traces_of_capture htraces
  exact ⟨c₀, gs, hle, hform, hgroups⟩

/-- A search ends in a way through its form, and the whole match is the last group to be closed. -/
theorem exists_traces_of_searchFrom {form : Form} {r : Regex}
    (hmachine : r.machine = (Form.capture 0 form).machine) (h : r.searchFrom c = some t) :
    ∃ c₀ gs, form.Traces c₀ t.cursor gs ∧ t.groups = (0, ⟨c₀.offset, t.cursor.offset⟩) :: gs := by
  rw [searchFrom, hmachine] at h
  obtain ⟨c₀, gs, -, htraces, hgroups⟩ := exists_traces_of_runFrom h
  exact ⟨c₀, gs, htraces, hgroups⟩

end Patchwork.Regex
