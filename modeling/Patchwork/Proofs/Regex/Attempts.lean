import Mathlib.Logic.Relation
import Patchwork.Proofs.Regex.Choice

/-!
What the attempts of a search have closed. The attempt that a search ends with is reached step by step from
the one that it begins with, so that what every step keeps holds of it. A group whose branches are groups is
closed right behind one of them, at the place where that branch was closed and with the start that it had;
so whenever the group has a span, a branch has the same.
-/

namespace Patchwork.Regex

/-- The latest span of the choice's group is the latest of one of its branches too. -/
def Choice.Covered (c : Choice) (groups : List (Nat × Span)) : Prop :=
  ∀ span, groupSpan groups c.group = some span → ∃ slot ∈ c.slots, groupSpan groups slot = some span

theorem groupSpan_cons (i j : Nat) (span : Span) (groups : List (Nat × Span)) :
    groupSpan ((i, span) :: groups) j = if i = j then some span else groupSpan groups j := by
  by_cases h : i = j <;> simp [groupSpan, h]

namespace Choice

variable {c : Choice}

theorem covered_nil : c.Covered [] := by
  intro span h
  cases h

theorem Covered.close_free {groups : List (Nat × Span)} (h : c.Covered groups) {i : Nat} (hi : c.Free i)
    (span : Span) : c.Covered ((i, span) :: groups) := by
  intro span' hspan
  rw [groupSpan_cons, if_neg hi.1] at hspan
  obtain ⟨slot, hslot, hspan⟩ := h span' hspan
  have hne : i ≠ slot := by
    rintro rfl
    exact hi.2 hslot
  refine ⟨slot, hslot, ?_⟩
  rw [groupSpan_cons, if_neg hne, hspan]

theorem covered_close_group {slot : Nat} (hslot : slot ∈ c.slots) (span : Span)
    (groups : List (Nat × Span)) : c.Covered ((c.group, span) :: (slot, span) :: groups) := by
  intro span' hspan
  rw [groupSpan_cons, if_pos rfl] at hspan
  have hne : c.group ≠ slot := by
    rintro rfl
    exact c.apart hslot
  refine ⟨slot, hslot, ?_⟩
  rw [groupSpan_cons, if_neg hne, groupSpan_cons, if_pos rfl, hspan]

end Choice

def Frame.Lies (c : Choice) (z : Zone) : Frame → Prop
  | .run p => p.Lies c z
  | .close i _ => c.Free i

/-- An attempt is outside the choice, or ahead of its branches, or in one of them, or has just closed
one; the groups that it closed before are covered. -/
inductive Choice.Follows (c : Choice) : Task → Prop where
  | outside {frames : List Frame} {cursor : Cursor} {groups : List (Nat × Span)}
      (hframes : ∀ f ∈ frames, f.Lies c .outside) (hgroups : c.Covered groups) :
      c.Follows ⟨frames, cursor, groups⟩
  | branches {p : Program} {k : List Frame} {cursor : Cursor} {groups : List (Nat × Span)}
      (hp : p.Lies c .branches) (hk : ∀ f ∈ k, f.Lies c .outside) (hgroups : c.Covered groups) :
      c.Follows ⟨.run p :: .close c.group cursor.offset :: k, cursor, groups⟩
  | within {inner k : List Frame} {slot start : Nat} {cursor : Cursor} {groups : List (Nat × Span)}
      (hinner : ∀ f ∈ inner, f.Lies c .within) (hslot : slot ∈ c.slots)
      (hk : ∀ f ∈ k, f.Lies c .outside) (hgroups : c.Covered groups) :
      c.Follows ⟨inner ++ .close slot start :: .close c.group start :: k, cursor, groups⟩
  | closed {k : List Frame} {slot start : Nat} {cursor : Cursor} {groups : List (Nat × Span)}
      (hslot : slot ∈ c.slots) (hk : ∀ f ∈ k, f.Lies c .outside) :
      c.Follows ⟨.close c.group start :: k, cursor, (slot, ⟨start, cursor.offset⟩) :: groups⟩

def Move.Leads (p : Task → Prop) : Move → Prop
  | .accept => True
  | .go next => ∀ t ∈ next, p t
  | .choose _ first second => p first ∧ p second

theorem Task.frames_of_accept {t : Task} (h : t.next = .accept) : t.frames = [] := by
  obtain ⟨frames, cursor, groups⟩ := t
  cases frames with
  | nil => rfl
  | cons f frames =>
      cases f with
      | close => cases h
      | run p =>
          cases p with
          | chars s =>
              simp only [Task.next] at h
              split at h <;> cases h
          | loop label greedy p => cases greedy <;> cases h
          | empty | look | capture | seq | choice => cases h

namespace Task

/-- One step of an attempt, by what its first frame is; at a choice and in a loop there are two. -/
inductive Steps : Task → Task → Prop where
  | close {i start : Nat} {k : List Frame} {c : Cursor} {gs : List (Nat × Span)} :
      Steps ⟨.close i start :: k, c, gs⟩ ⟨k, c, (i, ⟨start, c.offset⟩) :: gs⟩
  | empty {k : List Frame} {c : Cursor} {gs : List (Nat × Span)} : Steps ⟨.run .empty :: k, c, gs⟩ ⟨k, c, gs⟩
  | chars {s : Unicode.CharSet} {x : Char} {k : List Frame} {c c' : Cursor} {gs : List (Nat × Span)}
      (hstep : c.advance? = some (x, c')) (hx : s.contains x) :
      Steps ⟨.run (.chars s) :: k, c, gs⟩ ⟨k, c', gs⟩
  | look {l : Look} {k : List Frame} {c : Cursor} {gs : List (Nat × Span)} (hl : l.holds c) :
      Steps ⟨.run (.look l) :: k, c, gs⟩ ⟨k, c, gs⟩
  | capture {i : Nat} {p : Program} {k : List Frame} {c : Cursor} {gs : List (Nat × Span)} :
      Steps ⟨.run (.capture i p) :: k, c, gs⟩ ⟨.run p :: .close i c.offset :: k, c, gs⟩
  | seq {p q : Program} {k : List Frame} {c : Cursor} {gs : List (Nat × Span)} :
      Steps ⟨.run (.seq p q) :: k, c, gs⟩ ⟨.run p :: .run q :: k, c, gs⟩
  | first {label : Nat} {p q : Program} {k : List Frame} {c : Cursor} {gs : List (Nat × Span)} :
      Steps ⟨.run (.choice label p q) :: k, c, gs⟩ ⟨.run p :: k, c, gs⟩
  | second {label : Nat} {p q : Program} {k : List Frame} {c : Cursor} {gs : List (Nat × Span)} :
      Steps ⟨.run (.choice label p q) :: k, c, gs⟩ ⟨.run q :: k, c, gs⟩
  | again {label : Nat} {greedy : Bool} {p : Program} {k : List Frame} {c : Cursor}
      {gs : List (Nat × Span)} :
      Steps ⟨.run (.loop label greedy p) :: k, c, gs⟩ ⟨.run p :: .run (.loop label greedy p) :: k, c, gs⟩
  | leave {label : Nat} {greedy : Bool} {p : Program} {k : List Frame} {c : Cursor}
      {gs : List (Nat × Span)} : Steps ⟨.run (.loop label greedy p) :: k, c, gs⟩ ⟨k, c, gs⟩

theorem leads_next (t : Task) : t.next.Leads t.Steps := by
  obtain ⟨frames, c, groups⟩ := t
  cases frames with
  | nil => trivial
  | cons f k =>
      cases f with
      | close i start =>
          rintro t ⟨⟩
          exact .close
      | run p =>
          cases p with
          | empty =>
              rintro t ⟨⟩
              exact .empty
          | chars s =>
              simp only [next]
              split
              · next x c' hstep =>
                  intro t ht
                  split at ht
                  · next hx =>
                      cases ht
                      exact .chars hstep hx
                  · cases ht
              · rintro t ⟨⟩
          | look l =>
              intro t ht
              dsimp only at ht
              split at ht
              · next hl =>
                  cases ht
                  exact .look hl
              · cases ht
          | capture i p =>
              rintro t ⟨⟩
              exact .capture
          | seq p q =>
              rintro t ⟨⟩
              exact .seq
          | choice label p q => exact ⟨.first, .second⟩
          | loop label greedy p =>
              cases greedy with
              | true => exact ⟨.again, .leave⟩
              | false => exact ⟨.leave, .again⟩

def Reaches : Task → Task → Prop := Relation.ReflTransGen Steps

end Task

theorem exists_reaches_of_explore {labels fuel : Nat} {places : Places} {waiting : List Task} {t : Task}
    (h : explore labels fuel places waiting = some t) : ∃ t₀ ∈ waiting, t₀.Reaches t ∧ t.frames = [] := by
  induction fuel generalizing places waiting with
  | zero => cases h
  | succ fuel ih =>
      cases waiting with
      | nil => cases h
      | cons first waiting =>
          -- what waits next has been reached in one step, or has been waiting already
          have hmoved : ∀ next : List Task, (∀ t' ∈ next, first.Steps t') →
              (∃ t₀ ∈ next ++ waiting, t₀.Reaches t ∧ t.frames = []) →
                ∃ t₀ ∈ first :: waiting, t₀.Reaches t ∧ t.frames = [] := by
            rintro next hnext ⟨t₀, hmem, hreaches, hframes⟩
            rcases List.mem_append.1 hmem with hmem | hmem
            · exact ⟨first, List.mem_cons_self, .head (hnext t₀ hmem) hreaches, hframes⟩
            · exact ⟨t₀, List.mem_cons_of_mem _ hmem, hreaches, hframes⟩
          have hleads := first.leads_next
          simp only [explore] at h
          split at h
          · next hnext =>
              obtain rfl := Option.some.inj h
              exact ⟨first, List.mem_cons_self, .refl, Task.frames_of_accept hnext⟩
          · exact hmoved [] (by simp) (ih h)
          · next next hnext =>
              rw [hnext] at hleads
              exact hmoved [next] (List.forall_mem_singleton.2 (hleads next rfl)) (ih h)
          · next label a b hnext =>
              rw [hnext] at hleads
              split at h
              · exact hmoved [] (by simp) (ih h)
              · exact hmoved [a, b] (List.forall_mem_cons.2 ⟨hleads.1, List.forall_mem_singleton.2 hleads.2⟩) (ih h)

namespace Choice

variable {c : Choice} {k : List Frame} {cursor : Cursor} {groups : List (Nat × Span)}

/-- Where branches have no place, the first frame of an attempt leads to frames of its zone, unless it is
the group of the choice. -/
theorem follows_of_first {f : Frame} {inner : List Frame} {z : Zone} {t : Task} (hz : z ≠ .branches)
    (hf : f.Lies c z) (hinner : ∀ f ∈ inner, f.Lies c z) (hgroups : c.Covered groups)
    (hfollows : ∀ frames cursor groups, (∀ f ∈ frames, f.Lies c z) → c.Covered groups →
      c.Follows ⟨frames ++ k, cursor, groups⟩)
    (henter : z = .outside → ∀ p : Program, p.Lies c .branches →
      c.Follows ⟨.run p :: .close c.group cursor.offset :: (inner ++ k), cursor, groups⟩)
    (hstep : Task.Steps ⟨f :: (inner ++ k), cursor, groups⟩ t) : c.Follows t := by
  have hgo : ∀ first, (∀ f ∈ first, Frame.Lies c z f) → ∀ cursor,
      c.Follows ⟨first ++ (inner ++ k), cursor, groups⟩ := by
    intro first hfirst cursor
    rw [← List.append_assoc]
    exact hfollows _ _ _ (List.forall_mem_append.2 ⟨hfirst, hinner⟩) hgroups
  cases hstep with
  | close => exact hfollows _ _ _ hinner (hgroups.close_free hf _)
  | empty | chars | look | leave => exact hgo [] (by simp) _
  | @capture i p =>
      have hfree : c.Free i → p.Lies c z →
          c.Follows ⟨.run p :: .close i cursor.offset :: (inner ++ k), cursor, groups⟩ :=
        fun hi hp => hgo [.run p, .close i cursor.offset]
          (List.forall_mem_cons.2 ⟨hp, List.forall_mem_singleton.2 hi⟩) _
      cases z with
      | outside =>
          rcases hf with ⟨hi, hp⟩ | ⟨rfl, hp⟩
          · exact hfree hi hp
          -- the group of the choice itself, which only outside of it may be opened
          · exact henter rfl p hp
      | branches => exact absurd rfl hz
      | within => exact hfree hf.1 hf.2
  | @seq p q =>
      exact hgo [.run p, .run q] (List.forall_mem_cons.2 ⟨hf.2.1, List.forall_mem_singleton.2 hf.2.2⟩) _
  | @first label p q => exact hgo [.run p] (List.forall_mem_singleton.2 hf.1) _
  | @second label p q => exact hgo [.run q] (List.forall_mem_singleton.2 hf.2) _
  | @again label greedy p =>
      exact hgo [.run p, .run (.loop label greedy p)]
        (List.forall_mem_cons.2 ⟨hf.2, List.forall_mem_singleton.2 hf⟩) _

/-- Whatever an attempt does next, what the choice has closed stays covered. -/
theorem Follows.step {t t' : Task} (h : c.Follows t) (hstep : t.Steps t') : c.Follows t' := by
  cases h with
  | @outside frames cursor groups hframes hgroups =>
      cases frames with
      | nil => cases hstep
      | cons f frames =>
          obtain ⟨hf, hframes⟩ := List.forall_mem_cons.1 hframes
          rw [← List.append_nil frames] at hstep
          exact follows_of_first (by simp) hf hframes hgroups
            (fun frames cursor groups hframes hgroups => .outside (by simpa using hframes) hgroups)
            (fun _ p hp => .branches hp (by simpa using hframes) hgroups) hstep
  -- only the groups that are branches, and choices between them, can come first here
  | @branches p k cursor groups hp hk hgroups =>
      cases hstep with
      | @capture i p =>
          have hinner : ∀ f ∈ [Frame.run p], f.Lies c .within := List.forall_mem_singleton.2 hp.2
          exact .within hinner hp.1 hk hgroups
      | first => exact .branches hp.1 hk hgroups
      | second => exact .branches hp.2 hk hgroups
      | empty | chars | look => exact absurd rfl hp
      | seq | again | leave => exact absurd rfl hp.1
  | @within inner k slot start cursor groups hinner hslot hk hgroups =>
      cases inner with
      | nil =>
          cases hstep
          exact .closed hslot hk
      | cons f inner =>
          obtain ⟨hf, hinner⟩ := List.forall_mem_cons.1 hinner
          refine follows_of_first (by simp) hf hinner hgroups ?_ (fun hz => by cases hz) hstep
          exact fun frames cursor groups hframes hgroups => .within hframes hslot hk hgroups
  | @closed k slot start cursor groups hslot hk =>
      cases hstep
      exact .outside hk (covered_close_group hslot _ _)

theorem Follows.reaches {t t' : Task} (h : c.Follows t) (hreaches : t.Reaches t') : c.Follows t' := by
  induction hreaches with
  | refl => exact h
  | tail _ hstep ih => exact ih.step hstep

theorem Follows.covered {t : Task} (h : c.Follows t) (hframes : t.frames = []) : c.Covered t.groups := by
  cases h with
  | outside hframes hgroups => exact hgroups
  | branches | closed => cases hframes
  | within => simp at hframes

theorem covered_of_explore {labels fuel : Nat} {places : Places} {waiting : List Task} {t : Task}
    (hwaiting : ∀ t ∈ waiting, c.Follows t) (h : explore labels fuel places waiting = some t) :
    c.Covered t.groups := by
  obtain ⟨t₀, hmem, hreaches, hframes⟩ := exists_reaches_of_explore h
  exact ((hwaiting t₀ hmem).reaches hreaches).covered hframes

end Choice

namespace Machine

variable {c : Choice} {m : Machine} {t : Task}

theorem covered_of_runAt (hm : m.program.Lies c .outside) {cursor : Cursor}
    (h : m.runAt cursor = some t) : c.Covered t.groups := by
  refine Choice.covered_of_explore (List.forall_mem_singleton.2 ?_) h
  exact .outside (List.forall_mem_singleton.2 hm) Choice.covered_nil

theorem covered_of_runFrom (hm : m.program.Lies c .outside) {previous : Option Char} {offset : Nat}
    {cs : List Char} (h : m.runFrom previous offset cs = some t) : c.Covered t.groups := by
  induction cs generalizing previous offset with
  | nil => exact covered_of_runAt hm h
  | cons x cs ih =>
      rcases Option.or_eq_some_iff.1 h with hat | ⟨-, hfrom⟩
      · exact covered_of_runAt hm hat
      · exact ih hfrom

end Machine

variable {c : Choice} {r : Regex} {t : Task}

theorem exists_of_find? {text : String} {position : Nat} {spans : List (Option Span)}
    (h : r.find? text position = some spans) : ∃ cursor t, r.searchFrom cursor = some t ∧ spans = r.spans t := by
  obtain ⟨cursor, -, h⟩ := Option.bind_eq_some_iff.1 h
  obtain ⟨t, ht, heq⟩ := Option.bind_eq_some_iff.1 h
  exact ⟨cursor, t, ht, (Option.some.inj heq).symm⟩

structure Keeps (r : Regex) (p : Cursor → Prop) : Prop where
  search : ∀ {cursor : Cursor} {t : Task}, p cursor → r.searchFrom cursor = some t → p t.cursor
  advance : ∀ {cursor next : Cursor} {x : Char}, p cursor → cursor.advance? = some (x, next) → p next

section Walk

variable {p : Cursor → Prop} {fuel : Nat} {lastEnd : Option Nat} {cursor : Cursor} {spans : List (Option Span)}

theorem Keeps.nextFrom (hp : r.Keeps p) (hcursor : p cursor) (h : r.nextFrom lastEnd cursor = some t) :
    ∃ cursor, p cursor ∧ r.searchFrom cursor = some t := by
  obtain ⟨t', ht', h⟩ := Option.bind_eq_some_iff.1 h
  dsimp only at h
  have hsame : some t' = some t → ∃ cursor, p cursor ∧ r.searchFrom cursor = some t := by
    rintro ⟨⟩
    exact ⟨cursor, hcursor, ht'⟩
  split at h
  · split at h
    · obtain ⟨⟨x, after⟩, hstep, h⟩ := Option.bind_eq_some_iff.1 h
      exact ⟨after, hp.advance (hp.search hcursor ht') hstep, h⟩
    · exact hsame h
  · exact hsame h

theorem Keeps.allFrom (hp : r.Keeps p) (hcursor : p cursor) (h : spans ∈ r.allFrom fuel lastEnd cursor) :
    ∃ cursor t, p cursor ∧ r.searchFrom cursor = some t ∧ spans = r.spans t := by
  induction fuel generalizing lastEnd cursor with
  | zero => cases h
  | succ fuel ih =>
      simp only [Regex.allFrom] at h
      split at h
      · cases h
      · next t ht =>
          obtain ⟨from', hfrom, hsearch⟩ := hp.nextFrom hcursor ht
          rcases List.mem_cons.1 h with rfl | h
          · exact ⟨from', t, hfrom, hsearch, rfl⟩
          · exact ih (hp.search hfrom hsearch) h

theorem exists_of_mem_allFrom (h : spans ∈ r.allFrom fuel lastEnd cursor) :
    ∃ cursor t, r.searchFrom cursor = some t ∧ spans = r.spans t := by
  have hall : r.Keeps fun _ => True := ⟨fun _ _ => trivial, fun _ _ => trivial⟩
  obtain ⟨cursor, t, -, ht⟩ := hall.allFrom trivial h
  exact ⟨cursor, t, ht⟩

end Walk

theorem spans_get? (i : Nat) (span : Span) :
    (r.spans t)[i]?.join = some span ↔ i < r.groupCount ∧ groupSpan t.groups i = some span := by
  by_cases hi : i < r.groupCount <;> simp [spans, hi]

/-- Where an attempt has ended, the choice's group has the span of one of its branches. -/
theorem covered_of_searchFrom {form : Form} (hmachine : r.machine = (Form.capture 0 form).machine)
    (hcount : r.groupCount = form.lastGroup + 1) (hform : form.Lies c .outside) (hzero : c.Free 0)
    {cursor : Cursor} (h : r.searchFrom cursor = some t) {span : Span}
    (hspan : (r.spans t)[c.group]?.join = some span) :
    ∃ slot ∈ c.slots, (r.spans t)[slot]?.join = some span := by
  have hprogram : r.machine.program.Lies (c.upTo form.lastGroup) .outside := by
    rw [hmachine]
    have hwhole : (Form.capture 0 form).Lies (c.upTo form.lastGroup) .outside :=
      .inl ⟨hzero.upTo _, hform.upTo (Nat.le_refl _)⟩
    exact hwhole.assemble 0
  have hcovered := Machine.covered_of_runFrom hprogram h
  obtain ⟨slot, hslot, hspan⟩ := hcovered span (spans_get? _ _ |>.1 hspan).2
  obtain ⟨hslot, hle⟩ := List.mem_filter.1 hslot
  refine ⟨slot, hslot, (spans_get? _ _).2 ⟨?_, hspan⟩⟩
  rw [hcount]
  exact Nat.lt_succ_of_le (of_decide_eq_true hle)

end Patchwork.Regex
