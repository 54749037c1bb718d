import Patchwork.Proofs.Regex.Resolving
import Patchwork.Regex

namespace Patchwork.Regex

structure Choice where
  group : Nat
  slots : List Nat
  apart : group ∉ slots

/-- Where a part of a pattern stands: outside the choice, as one of its branches or some of them, or
within a branch. -/
inductive Zone where
  | outside
  | branches
  | within
  deriving DecidableEq

namespace Choice

def Free (c : Choice) (i : Nat) : Prop := i ≠ c.group ∧ i ∉ c.slots

/-- A group may stand in a zone, given the zones in which what it encloses may stand. -/
def Admits (c : Choice) (i : Nat) (inner : Zone → Prop) : Zone → Prop
  | .outside => c.Free i ∧ inner .outside ∨ i = c.group ∧ inner .branches
  | .branches => i ∈ c.slots ∧ inner .within
  | .within => c.Free i ∧ inner .within

variable {c : Choice} {i : Nat} {z : Zone}

theorem Admits.imp {p q : Zone → Prop} (h : c.Admits i p z) (hpq : ∀ z, p z → q z) : c.Admits i q z := by
  cases z with
  | outside => exact h.imp (And.imp_right (hpq _)) (And.imp_right (hpq _))
  | branches | within => exact h.imp_right (hpq _)

theorem Free.admits {p : Zone → Prop} (hi : c.Free i) (hz : z ≠ .branches) (h : p z) : c.Admits i p z := by
  cases z with
  | outside => exact .inl ⟨hi, h⟩
  | branches => exact absurd rfl hz
  | within => exact ⟨hi, h⟩

def upTo (c : Choice) (n : Nat) : Choice where
  group := c.group
  slots := c.slots.filter (· ≤ n)
  apart h := c.apart (List.mem_filter.1 h).1

theorem Free.upTo (h : c.Free i) (n : Nat) : (c.upTo n).Free i :=
  ⟨h.1, fun hi => h.2 (List.mem_filter.1 hi).1⟩

end Choice

def Tree.Lies (c : Choice) : Tree → Zone → Prop
  | .repeat _ _ _ t, z => z ≠ .branches ∧ t.Lies c z
  | .group (.capture i _) t, z => c.Admits i (fun z => t.Lies c z) z
  | .group (.scoped _) t, z => z ≠ .branches ∧ t.Lies c z
  | .seq t u, z => z ≠ .branches ∧ t.Lies c z ∧ u.Lies c z
  | .alt t u, z => t.Lies c z ∧ u.Lies c z
  | _, z => z ≠ .branches

def Form.Lies (c : Choice) : Form → Zone → Prop
  | .capture i f, z => c.Admits i (fun z => f.Lies c z) z
  | .seq f g, z => z ≠ .branches ∧ f.Lies c z ∧ g.Lies c z
  | .alt f g, z => f.Lies c z ∧ g.Lies c z
  | .repeat _ _ _ f, z => z ≠ .branches ∧ f.Lies c z
  | _, z => z ≠ .branches

def Program.Lies (c : Choice) : Program → Zone → Prop
  | .capture i p, z => c.Admits i (fun z => p.Lies c z) z
  | .seq p q, z => z ≠ .branches ∧ p.Lies c z ∧ q.Lies c z
  | .choice _ p q, z => p.Lies c z ∧ q.Lies c z
  | .loop _ _ p, z => z ≠ .branches ∧ p.Lies c z
  | _, z => z ≠ .branches

variable {c : Choice} {z : Zone}

namespace Tree

def groups : Tree → List Nat
  | .repeat _ _ _ t => t.groups
  | .group (.capture i _) t => i :: t.groups
  | .group (.scoped _) t => t.groups
  | .seq t u => t.groups ++ u.groups
  | .alt t u => t.groups ++ u.groups
  | _ => []

theorem lies_of_free {t : Tree} (h : ∀ i ∈ t.groups, c.Free i) (hz : z ≠ .branches) : t.Lies c z := by
  induction t with
  | «repeat» min max greedy t ih => exact ⟨hz, ih h⟩
  | group kind t ih =>
      cases kind with
      | capture i name =>
          obtain ⟨hi, ht⟩ := List.forall_mem_cons.1 h
          exact hi.admits hz (ih ht)
      | «scoped» changes => exact ⟨hz, ih h⟩
  | seq t u iht ihu =>
      obtain ⟨ht, hu⟩ := List.forall_mem_append.1 h
      exact ⟨hz, iht ht, ihu hu⟩
  | alt t u iht ihu =>
      obtain ⟨ht, hu⟩ := List.forall_mem_append.1 h
      exact ⟨iht ht, ihu hu⟩
  | empty | flags | literal | dot | assertion | «class» => exact hz

theorem mem_groups_ofPieces {ts : List Tree} {i : Nat} :
    i ∈ (ofPieces ts).groups ↔ ∃ t ∈ ts, i ∈ t.groups := by
  induction ts with
  | nil => simp [ofPieces, groups]
  | cons t ts ih =>
      cases ts with
      | nil => simp [ofPieces]
      | cons u us => simp [ofPieces, groups, ih]

theorem mem_groups_ofBranches {t : Tree} {ts : List Tree} {i : Nat} :
    i ∈ (ofBranches t ts).groups ↔ ∃ u ∈ t :: ts, i ∈ u.groups := by
  induction ts generalizing t with
  | nil => simp [ofBranches]
  | cons u us ih => simp [ofBranches, groups, ih]

theorem lies_ofPieces {ts : List Tree} (hz : z ≠ .branches) (h : ∀ t ∈ ts, t.Lies c z) :
    (ofPieces ts).Lies c z := by
  induction ts with
  | nil => exact hz
  | cons t ts ih =>
      obtain ⟨ht, hts⟩ := List.forall_mem_cons.1 h
      cases ts with
      | nil => exact ht
      | cons u us => exact ⟨hz, ht, ih hts⟩

theorem lies_ofBranches {t : Tree} {ts : List Tree} (h : ∀ u ∈ t :: ts, u.Lies c z) :
    (ofBranches t ts).Lies c z := by
  induction ts generalizing t with
  | nil => exact h t List.mem_cons_self
  | cons u us ih =>
      obtain ⟨ht, hus⟩ := List.forall_mem_cons.1 h
      exact ⟨ht, ih hus⟩

end Tree

namespace Form

theorem lies_repeated {f : Form} (hz : z ≠ .branches) (h : f.Lies c z) (min : Nat) (max : Option Nat)
    (greedy : Bool) : (repeated min max greedy f).Lies c z := by
  unfold repeated
  split
  split
  · exact hz
  · exact h
  · exact ⟨hz, h⟩

theorem lies_of_resolves {t : Tree} {m after : Modes} {f : Form} (h : t.Resolves m f after)
    (ht : t.Lies c z) : f.Lies c z := by
  induction h generalizing z with
  | empty | flags | assertion | literal | dot | «class» => exact ht
  | «repeat» _ _ _ _ ih => exact lies_repeated ht.1 (ih ht.2) _ _ _
  | capture _ _ _ ih => exact ht.imp fun z ht => ih ht
  | «scoped» _ ih => exact ih ht.2
  | seq _ _ iht ihu => exact ⟨ht.1, iht ht.2.1, ihu ht.2.2⟩
  | alt _ _ iht ihu => exact ⟨iht ht.1, ihu ht.2⟩

/-- The branches that no match can use are not needed. -/
theorem Lies.upTo {f : Form} {n : Nat} (h : f.Lies c z) (hn : f.lastGroup ≤ n) : f.Lies (c.upTo n) z := by
  induction f generalizing z with
  | empty | chars | look => exact h
  | capture i f ih =>
      obtain ⟨hi, hf⟩ := Nat.max_le.1 hn
      cases z with
      | outside =>
          rcases h with ⟨hfree, h⟩ | ⟨hgroup, h⟩
          · exact .inl ⟨hfree.upTo n, ih h hf⟩
          · exact .inr ⟨hgroup, ih h hf⟩
      | branches => exact ⟨List.mem_filter.2 ⟨h.1, decide_eq_true hi⟩, ih h.2 hf⟩
      | within => exact ⟨h.1.upTo n, ih h.2 hf⟩
  | seq f g ihf ihg =>
      obtain ⟨hf, hg⟩ := Nat.max_le.1 hn
      exact ⟨h.1, ihf h.2.1 hf, ihg h.2.2 hg⟩
  | alt f g ihf ihg =>
      obtain ⟨hf, hg⟩ := Nat.max_le.1 hn
      exact ⟨ihf h.1 hf, ihg h.2 hg⟩
  | «repeat» min max greedy f ih => exact ⟨h.1, ih h.2 hn⟩

end Form

namespace Program

def Labelled.Lies (c : Choice) (z : Zone) (p : Labelled) : Prop := ∀ n, (p n).1.Lies c z

namespace Labelled

variable {p q : Labelled}

theorem lies_empty (hz : z ≠ .branches) : Labelled.empty.Lies c z := fun _ => hz

theorem Lies.seq (hz : z ≠ .branches) (hp : p.Lies c z) (hq : q.Lies c z) : (seq p q).Lies c z :=
  fun n => ⟨hz, hp n, hq _⟩

theorem Lies.choice (hp : p.Lies c z) (hq : q.Lies c z) : (choice p q).Lies c z :=
  fun n => ⟨hp (n + 1), hq _⟩

theorem Lies.optional (hz : z ≠ .branches) (hp : p.Lies c z) (greedy : Bool) :
    (optional greedy p).Lies c z := by
  unfold Labelled.optional
  split
  · exact hp.choice (lies_empty hz)
  · exact (lies_empty hz).choice hp

theorem Lies.times (hz : z ≠ .branches) (hp : p.Lies c z) (k : Nat) : (times p k).Lies c z := by
  induction k using times.induct with
  | case1 => exact lies_empty hz
  | case2 => exact hp
  | case3 k ih => exact hp.seq hz ih

theorem Lies.atMost (hz : z ≠ .branches) (hp : p.Lies c z) (greedy : Bool) (k : Nat) :
    (atMost greedy p k).Lies c z := by
  induction k with
  | zero => exact lies_empty hz
  | succ k ih => exact (hp.seq hz ih).optional hz greedy

theorem Lies.plus (hz : z ≠ .branches) (hp : p.Lies c z) (greedy : Bool) : (plus greedy p).Lies c z :=
  fun n => ⟨hz, hp (n + 1), hz, hp (n + 1)⟩

theorem Lies.anyNumber (hz : z ≠ .branches) (hp : p.Lies c z) (greedy consumes : Bool) :
    (anyNumber greedy consumes p).Lies c z := by
  unfold Labelled.anyNumber
  split
  · exact fun n => ⟨hz, hp (n + 1)⟩
  · exact (hp.plus hz greedy).optional hz greedy

theorem Lies.repetition (hz : z ≠ .branches) (hp : p.Lies c z) (min : Nat) (max : Option Nat)
    (greedy consumes : Bool) : (repetition min max greedy consumes p).Lies c z := by
  unfold Labelled.repetition
  split
  · exact hp.anyNumber hz greedy consumes
  · exact hp.plus hz greedy
  · exact (hp.times hz _).seq hz (hp.plus hz greedy)
  · split
    · exact hp.times hz _
    · split
      · exact hp.atMost hz greedy _
      · exact (hp.times hz _).seq hz (hp.atMost hz greedy _)

end Labelled

end Program

theorem Form.Lies.assemble {f : Form} (h : f.Lies c z) : f.assemble.Lies c z := by
  induction f generalizing z with
  | empty => exact Program.Labelled.lies_empty h
  | chars | look => exact fun _ => h
  | capture i f ih => exact fun n => h.imp fun z h => ih h n
  | seq f g ihf ihg => exact (ihf h.2.1).seq h.1 (ihg h.2.2)
  | alt f g ihf ihg => exact (ihf h.1).choice (ihg h.2)
  | «repeat» min max greedy f ih => exact (ih h.2).repetition h.1 min max greedy f.consumes

end Patchwork.Regex
