import Mathlib.Data.Finset.Card
import Mathlib.Order.Interval.Finset.Nat
import Mathlib.Tactic.Ring
import Patchwork.Proofs.Regex.Attempts

/-!
A search never runs out of steps. Between two choices the attempts that wait lose nodes, and a choice is
made at each place once; so what waits and the places that are free are together a potential that falls with
every step.
-/

namespace Patchwork.Regex

namespace Program

theorem size_le_peak (p : Program) : p.load.size ≤ p.load.peak := by
  cases p <;> simp only [load] <;> omega

theorem size_pos (p : Program) : 0 < p.load.size := by
  cases p <;> simp only [load] <;> omega

def LabelsBelow (n : Nat) : Program → Prop
  | capture _ p => p.LabelsBelow n
  | seq p q => p.LabelsBelow n ∧ q.LabelsBelow n
  | choice label p q => label < n ∧ p.LabelsBelow n ∧ q.LabelsBelow n
  | loop label _ p => label < n ∧ p.LabelsBelow n
  | _ => True

theorem LabelsBelow.mono {p : Program} {m n : Nat} (h : p.LabelsBelow m) (hle : m ≤ n) :
    p.LabelsBelow n := by
  induction p with
  | empty | chars | look => trivial
  | capture i p ih => exact ih h
  | seq p q ihp ihq => exact ⟨ihp h.1, ihq h.2⟩
  | choice label p q ihp ihq => exact ⟨Nat.lt_of_lt_of_le h.1 hle, ihp h.2.1, ihq h.2.2⟩
  | loop label greedy p ih => exact ⟨Nat.lt_of_lt_of_le h.1 hle, ih h.2⟩

namespace Labelled

variable {p q : Labelled}

def Counts (p : Labelled) : Prop := ∀ n, n ≤ (p n).2 ∧ (p n).1.LabelsBelow (p n).2

theorem counts_empty : empty.Counts := fun n => ⟨Nat.le_refl n, trivial⟩

theorem Counts.seq (hp : p.Counts) (hq : q.Counts) : (Labelled.seq p q).Counts := by
  intro n
  obtain ⟨hle, hbelow⟩ := hp n
  obtain ⟨hle', hbelow'⟩ := hq (p n).2
  exact ⟨Nat.le_trans hle hle', hbelow.mono hle', hbelow'⟩

theorem Counts.choice (hp : p.Counts) (hq : q.Counts) : (Labelled.choice p q).Counts := by
  intro n
  obtain ⟨hle, hbelow⟩ := hp (n + 1)
  obtain ⟨hle', hbelow'⟩ := hq (p (n + 1)).2
  have hlt : n < (q (p (n + 1)).2).2 := Nat.lt_of_lt_of_le (Nat.lt_of_succ_le hle) hle'
  exact ⟨Nat.le_of_lt hlt, hlt, hbelow.mono hle', hbelow'⟩

theorem Counts.optional (hp : p.Counts) (greedy : Bool) : (Labelled.optional greedy p).Counts := by
  unfold Labelled.optional
  split
  · exact hp.choice counts_empty
  · exact counts_empty.choice hp

theorem Counts.times (hp : p.Counts) (k : Nat) : (Labelled.times p k).Counts := by
  induction k using Labelled.times.induct with
  | case1 => exact counts_empty
  | case2 => exact hp
  | case3 k ih => exact hp.seq ih

theorem Counts.atMost (hp : p.Counts) (greedy : Bool) (k : Nat) : (Labelled.atMost greedy p k).Counts := by
  induction k with
  | zero => exact counts_empty
  | succ k ih => exact (hp.seq ih).optional greedy

theorem Counts.star (hp : p.Counts) (greedy : Bool) : (Labelled.star greedy p).Counts := by
  intro n
  obtain ⟨hle, hbelow⟩ := hp (n + 1)
  exact ⟨Nat.le_of_succ_le hle, hle, hbelow⟩

theorem Counts.plus (hp : p.Counts) (greedy : Bool) : (Labelled.plus greedy p).Counts := by
  intro n
  obtain ⟨hle, hbelow⟩ := hp (n + 1)
  exact ⟨Nat.le_of_succ_le hle, hbelow, hle, hbelow⟩

theorem Counts.repetition (hp : p.Counts) (min : Nat) (max : Option Nat) (greedy consumes : Bool) :
    (Labelled.repetition min max greedy consumes p).Counts := by
  unfold Labelled.repetition
  split
  · unfold anyNumber
    split
    · exact hp.star greedy
    · exact (hp.plus greedy).optional greedy
  · exact hp.plus greedy
  · exact (hp.times _).seq (hp.plus greedy)
  · split
    · exact hp.times _
    · split
      · exact hp.atMost greedy _
      · exact (hp.times _).seq (hp.atMost greedy _)

end Labelled

end Program

theorem Form.counts_assemble (f : Form) : f.assemble.Counts := by
  induction f with
  | empty | chars | look => exact fun n => ⟨Nat.le_refl n, trivial⟩
  | capture i f ih => exact ih
  | seq f g ihf ihg => exact ihf.seq ihg
  | alt f g ihf ihg => exact ihf.choice ihg
  | «repeat» min max greedy f ih => exact ih.repetition min max greedy f.consumes

namespace Frame

def size : Frame → Nat
  | run p => p.load.size
  | close .. => 1

/-- How many nodes can be waiting at once while the frame is worked through. -/
def peak : Frame → Nat
  | run p => p.load.peak
  | close .. => 1

def LabelsBelow (n : Nat) : Frame → Prop
  | run p => p.LabelsBelow n
  | close .. => True

theorem size_le_peak (f : Frame) : f.size ≤ f.peak := by
  cases f with
  | run p => exact p.size_le_peak
  | close => exact Nat.le_refl _

end Frame

def sizes (k : List Frame) : Nat := (k.map Frame.size).sum

theorem sizes_cons (f : Frame) (k : List Frame) : sizes (f :: k) = f.size + sizes k := List.sum_cons

def peaks : List Frame → Nat
  | [] => 0
  | f :: k => max (f.peak + sizes k) (peaks k)

theorem sizes_le_peaks (k : List Frame) : sizes k ≤ peaks k := by
  cases k with
  | nil => exact Nat.le_refl _
  | cons f k =>
      have hle := f.size_le_peak
      simp only [sizes_cons, peaks]
      omega

namespace Task

variable {labels peak first last : Nat} {t : Task}

def size (t : Task) : Nat := sizes t.frames

/-- The attempt has no more labels than those, no more nodes waiting than the peak, and goes on between
two places. -/
structure Keeps (labels peak first last : Nat) (t : Task) : Prop where
  labels : ∀ f ∈ t.frames, f.LabelsBelow labels
  peak : peaks t.frames ≤ peak
  first : first ≤ t.cursor.offset
  last : t.cursor.offset + Text.byteLength t.cursor.rest = last

theorem Keeps.size_le (h : t.Keeps labels peak first last) : t.size ≤ peak :=
  Nat.le_trans (sizes_le_peaks _) h.peak

end Task

def Move.Falls (labels size : Nat) (keeps : Task → Prop) : Move → Prop
  | .accept => True
  | .go next => ∀ t ∈ next, keeps t ∧ t.size < size
  | .choose label a b => label < labels ∧ keeps a ∧ keeps b

namespace Task

variable {labels peak first last : Nat} {t t' : Task}

/-- What is put in place of the first frame has its labels, and needs no more room than that frame. -/
theorem Keeps.step (h : t.Keeps labels peak first last) (hstep : t.Steps t') :
    t'.Keeps labels peak first last := by
  obtain ⟨hlabels, hpeak, hfirst, hlast⟩ := h
  cases hstep with
  | close | empty | look | leave =>
      exact ⟨(List.forall_mem_cons.1 hlabels).2, (Nat.max_le.1 hpeak).2, hfirst, hlast⟩
  | @chars s x k c c' gs hstep =>
      refine ⟨(List.forall_mem_cons.1 hlabels).2, (Nat.max_le.1 hpeak).2, ?_, ?_⟩
      all_goals
        obtain ⟨previous, rest, offset⟩ := c
        cases rest <;> cases hstep
        simp only [Text.byteLength_cons] at *
        omega
  | capture =>
      obtain ⟨hf, hk⟩ := List.forall_mem_cons.1 hlabels
      refine ⟨List.forall_mem_cons.2 ⟨hf, List.forall_mem_cons.2 ⟨trivial, hk⟩⟩, ?_, hfirst, hlast⟩
      simp only [peaks, sizes_cons, Frame.peak, Frame.size, Program.load] at *
      omega
  | seq =>
      obtain ⟨hf, hk⟩ := List.forall_mem_cons.1 hlabels
      refine ⟨List.forall_mem_cons.2 ⟨hf.1, List.forall_mem_cons.2 ⟨hf.2, hk⟩⟩, ?_, hfirst, hlast⟩
      simp only [peaks, sizes_cons, Frame.peak, Frame.size, Program.load] at *
      omega
  | first =>
      obtain ⟨hf, hk⟩ := List.forall_mem_cons.1 hlabels
      refine ⟨List.forall_mem_cons.2 ⟨hf.2.1, hk⟩, ?_, hfirst, hlast⟩
      simp only [peaks, Frame.peak, Program.load] at *
      omega
  | second =>
      obtain ⟨hf, hk⟩ := List.forall_mem_cons.1 hlabels
      refine ⟨List.forall_mem_cons.2 ⟨hf.2.2, hk⟩, ?_, hfirst, hlast⟩
      simp only [peaks, Frame.peak, Program.load] at *
      omega
  | again =>
      obtain ⟨hf, hk⟩ := List.forall_mem_cons.1 hlabels
      refine ⟨List.forall_mem_cons.2 ⟨hf.2, List.forall_mem_cons.2 ⟨hf, hk⟩⟩, ?_, hfirst, hlast⟩
      simp only [peaks, sizes_cons, Frame.peak, Frame.size, Program.load] at *
      omega

theorem Keeps.next (h : t.Keeps labels peak first last) :
    t.next.Falls labels t.size (Keeps labels peak first last) := by
  obtain ⟨frames, c, groups⟩ := t
  cases frames with
  | nil => trivial
  | cons f k =>
      have hf : f.LabelsBelow labels := h.labels f List.mem_cons_self
      have hsizes : size ⟨f :: k, c, groups⟩ = f.size + sizes k := sizes_cons f k
      rw [hsizes]
      cases f with
      | close i start =>
          rintro t ⟨⟩
          exact ⟨h.step .close, Nat.lt_add_of_pos_left (Nat.succ_pos 0)⟩
      | run p =>
          have hpos : sizes k < Frame.size (.run p) + sizes k := Nat.lt_add_of_pos_left p.size_pos
          cases p with
          | empty =>
              rintro t ⟨⟩
              exact ⟨h.step .empty, hpos⟩
          | chars s =>
              simp only [Task.next]
              split
              · next x c' hstep =>
                  intro t ht
                  split at ht
                  · next hx =>
                      cases ht
                      exact ⟨h.step (.chars hstep hx), hpos⟩
                  · cases ht
              · rintro t ⟨⟩
          | look l =>
              intro t ht
              dsimp only at ht
              split at ht
              · next hl =>
                  cases ht
                  exact ⟨h.step (.look hl), hpos⟩
              · cases ht
          | capture i p =>
              rintro t ⟨⟩
              refine ⟨h.step .capture, ?_⟩
              simp only [Task.size, sizes_cons, Frame.size, Program.load]
              omega
          | seq p q =>
              rintro t ⟨⟩
              refine ⟨h.step .seq, ?_⟩
              simp only [Task.size, sizes_cons, Frame.size, Program.load]
              omega
          -- a choice need not make the attempt smaller, since its label is used up at this place
          | choice label p q => exact ⟨hf.1, h.step .first, h.step .second⟩
          | loop label greedy p =>
              cases greedy with
              | true => exact ⟨hf.1, h.step .again, h.step .leave⟩
              | false => exact ⟨hf.1, h.step .leave, h.step .again⟩

end Task

section Potential

variable {labels peak first last fuel : Nat} {places : Places} {waiting : List Task}

def free (labels first last : Nat) (places : Places) : Nat :=
  ((Finset.Ico (first * labels) ((last + 1) * labels)).filter fun i => places.contains i = false).card

def potential (labels peak first last : Nat) (places : Places) (waiting : List Task) : Nat :=
  (waiting.map fun t => t.size + 1).sum + 2 * (peak + 1) * free labels first last places

theorem free_insert {offset label : Nat} (hlabel : label < labels) (hfirst : first ≤ offset)
    (hlast : offset ≤ last) (hnew : places.contains (offset * labels + label) = false) :
    free labels first last (places.insert (offset * labels + label)) < free labels first last places := by
  refine Finset.card_lt_card ((Finset.ssubset_iff_of_subset ?_).2 ⟨offset * labels + label, ?_, ?_⟩)
  · intro i hi
    obtain ⟨hmem, hi⟩ := Finset.mem_filter.1 hi
    rw [Std.TreeSet.contains_insert, Bool.or_eq_false_iff] at hi
    exact Finset.mem_filter.2 ⟨hmem, hi.2⟩
  · have hlo : first * labels ≤ offset * labels := Nat.mul_le_mul_right _ hfirst
    have hhi : (offset + 1) * labels ≤ (last + 1) * labels := Nat.mul_le_mul_right _ (by omega)
    rw [Nat.succ_mul] at hhi
    exact Finset.mem_filter.2 ⟨Finset.mem_Ico.2 ⟨by omega, by omega⟩, hnew⟩
  · simp

/-- With more steps than the potential, an exploration comes to its end, so that further steps would change
nothing. -/
theorem explore_add (hwaiting : ∀ t ∈ waiting, t.Keeps labels peak first last)
    (h : potential labels peak first last places waiting < fuel) (more : Nat) :
    explore labels (fuel + more) places waiting = explore labels fuel places waiting := by
  induction fuel generalizing places waiting with
  | zero => exact absurd h (Nat.not_lt_zero _)
  | succ fuel ih =>
      rw [Nat.add_right_comm]
      cases waiting with
      | nil => rfl
      | cons t waiting =>
          obtain ⟨ht, hwaiting⟩ := List.forall_mem_cons.1 hwaiting
          have hfalls := ht.next
          have hsize := ht.size_le
          simp only [potential, List.map_cons, List.sum_cons] at h
          have hrest : explore labels (fuel + more) places waiting = explore labels fuel places waiting :=
            ih hwaiting (by rw [potential]; omega)
          simp only [explore]
          cases hnext : t.next with
          | accept => rfl
          | go next =>
              rw [hnext] at hfalls
              cases next with
              | none => exact hrest
              | some next =>
                  obtain ⟨hkeeps, hlt⟩ := hfalls next rfl
                  refine ih (List.forall_mem_cons.2 ⟨hkeeps, hwaiting⟩) ?_
                  simp only [potential, List.map_cons, List.sum_cons]
                  omega
          | choose label a b =>
              rw [hnext] at hfalls
              obtain ⟨hlabel, ha, hb⟩ := hfalls
              dsimp only
              split
              · exact hrest
              · next hnew =>
                  -- the place is new: what it gives back is more than both attempts can take
                  have hoffset : t.cursor.offset ≤ last := ht.last ▸ Nat.le_add_right _ _
                  have hplace := free_insert hlabel ht.first hoffset (Bool.eq_false_iff.2 hnew)
                  have hless := Nat.mul_le_mul_left (2 * (peak + 1)) (Nat.succ_le_of_lt hplace)
                  have hasize := ha.size_le
                  have hbsize := hb.size_le
                  refine ih (List.forall_mem_cons.2 ⟨ha, List.forall_mem_cons.2 ⟨hb, hwaiting⟩⟩) ?_
                  simp only [potential, List.map_cons, List.sum_cons]
                  rw [Nat.mul_succ] at hless
                  omega

end Potential

/-- What an exploration comes to when it has steps enough. -/
def Settles (labels : Nat) (places : Places) (waiting : List Task) (result : Option Task) : Prop :=
  ∃ enough, ∀ more, explore labels (enough + more) places waiting = result

namespace Settles

variable {labels : Nat} {places : Places} {waiting : List Task} {result other : Option Task} {t : Task}

theorem unique (h : Settles labels places waiting result) (h' : Settles labels places waiting other) :
    result = other := by
  obtain ⟨n, hn⟩ := h
  obtain ⟨m, hm⟩ := h'
  rw [← hn m, Nat.add_comm, hm]

theorem nil : Settles labels places [] none := ⟨1, fun more => by rw [Nat.add_comm]; rfl⟩

theorem of_step {places' : Places} {waiting' : List Task}
    (hstep : ∀ fuel, explore labels (fuel + 1) places waiting = explore labels fuel places' waiting') :
    Settles labels places waiting result ↔ Settles labels places' waiting' result := by
  constructor
  · rintro ⟨n, hn⟩
    refine ⟨n, fun more => ?_⟩
    rw [← hstep, Nat.add_assoc, hn]
  · rintro ⟨n, hn⟩
    refine ⟨n + 1, fun more => ?_⟩
    rw [Nat.add_right_comm, hstep, hn]

theorem go_iff {next : Task} (hnext : t.next = .go (some next)) :
    Settles labels places (t :: waiting) result ↔ Settles labels places (next :: waiting) result :=
  of_step fun fuel => by simp only [explore, hnext]

theorem stuck_iff (hnext : t.next = .go none) :
    Settles labels places (t :: waiting) result ↔ Settles labels places waiting result :=
  of_step fun fuel => by simp only [explore, hnext]

theorem accept_iff {c : Cursor} {groups : List (Nat × Span)} :
    Settles labels places (⟨[], c, groups⟩ :: waiting) result ↔ result = some ⟨[], c, groups⟩ := by
  have haccept : Settles labels places (⟨[], c, groups⟩ :: waiting) (some ⟨[], c, groups⟩) :=
    ⟨1, fun more => by rw [Nat.add_comm]; rfl⟩
  exact ⟨fun h => h.unique haccept, fun h => h ▸ haccept⟩

theorem choose_iff {label : Nat} {a b : Task} (hnext : t.next = .choose label a b)
    (hnew : places.contains (t.cursor.offset * labels + label) = false) :
    Settles labels places (t :: waiting) result ↔
      Settles labels (places.insert (t.cursor.offset * labels + label)) (a :: b :: waiting) result :=
  of_step fun fuel => by simp only [explore, hnext, hnew, Bool.false_eq_true, if_false]

end Settles

theorem Form.settles_runAt (f : Form) (c : Cursor) :
    Settles f.machine.labels .empty [⟨[.run f.machine.program], c, []⟩] (f.machine.runAt c) := by
  let m := f.machine
  let bytes := Text.byteLength c.rest
  have hkeeps : Task.Keeps m.labels m.peak c.offset (c.offset + bytes) ⟨[.run m.program], c, []⟩ := by
    refine ⟨List.forall_mem_singleton.2 (f.counts_assemble 0).2, ?_, Nat.le_refl _, rfl⟩
    exact Nat.max_le.2 ⟨Nat.le_refl _, Nat.zero_le _⟩
  have hfree : free m.labels c.offset (c.offset + bytes) .empty ≤ (bytes + 1) * m.labels := by
    refine Nat.le_trans (Finset.card_filter_le _ _) ?_
    rw [Nat.card_Ico, ← Nat.sub_mul, Nat.add_assoc, Nat.add_sub_cancel_left]
  have hbound : potential m.labels m.peak c.offset (c.offset + bytes) .empty
      [⟨[.run m.program], c, []⟩] < m.stepBound bytes := by
    have hmul := Nat.mul_le_mul_left (2 * (m.peak + 1)) hfree
    have hsize := hkeeps.size_le
    have hsteps : m.stepBound bytes = 2 * (m.peak + 1) * ((bytes + 1) * m.labels) + (m.peak + 1) + 1 := by
      rw [Machine.stepBound]
      ring
    simp only [potential, List.map_cons, List.map_nil, List.sum_cons, List.sum_nil]
    omega
  exact ⟨m.stepBound bytes, explore_add (List.forall_mem_singleton.2 hkeeps) hbound⟩

end Patchwork.Regex
