import Mathlib.Data.List.Nodup
import Patchwork.Proofs.Regex.Nesting

namespace Patchwork.Regex

def GroupKind.shift (k : Nat) : GroupKind → GroupKind
  | .capture i name => .capture (i + k) name
  | .scoped changes => .scoped changes

namespace Tree

def parts : Tree → List Tree
  | t@(.repeat _ _ _ u) => t :: u.parts
  | t@(.group _ u) => t :: u.parts
  | t@(.seq u v) => t :: (u.parts ++ v.parts)
  | t@(.alt u v) => t :: (u.parts ++ v.parts)
  | t => [t]

def content? (i : Nat) : Tree → Option Tree
  | .group (.capture j _) t => if j = i then some t else none
  | _ => none

def enclosed (i : Nat) (t : Tree) : List Tree := t.parts.filterMap (content? i)

def shift (k : Nat) : Tree → Tree
  | .repeat min max greedy t => .repeat min max greedy (t.shift k)
  | .group kind t => .group (kind.shift k) (t.shift k)
  | .seq t u => .seq (t.shift k) (u.shift k)
  | .alt t u => .alt (t.shift k) (u.shift k)
  | t => t

def relabel (f : GroupKind → GroupKind) : Tree → Tree
  | .repeat min max greedy t => .repeat min max greedy (t.relabel f)
  | .group kind t => .group (f kind) (t.relabel f)
  | .seq t u => .seq (t.relabel f) (u.relabel f)
  | .alt t u => .alt (t.relabel f) (u.relabel f)
  | t => t

def labels : Tree → List (Nat × Option String)
  | .repeat _ _ _ t => t.labels
  | .group (.capture i name) t => (i, name) :: t.labels
  | .group (.scoped _) t => t.labels
  | .seq t u => t.labels ++ u.labels
  | .alt t u => t.labels ++ u.labels
  | _ => []

def ofAlternatives : List Tree → Tree
  | [] => .empty
  | t :: ts => .ofBranches t ts

def joined (op : Tree → Tree → Tree) : List Tree → Tree
  | [] => .empty
  | [t] => t
  | t :: ts => op t (joined op ts)

variable {i k : Nat} {t u : Tree} {ts : List Tree}

theorem ofPieces_eq_joined (ts : List Tree) : ofPieces ts = joined .seq ts := by
  induction ts with
  | nil => rfl
  | cons t ts ih =>
      cases ts with
      | nil => rfl
      | cons u us => exact congrArg _ ih

theorem ofAlternatives_eq_joined (ts : List Tree) : ofAlternatives ts = joined .alt ts := by
  induction ts with
  | nil => rfl
  | cons t ts ih =>
      cases ts with
      | nil => rfl
      | cons u us => exact congrArg _ ih

theorem self_mem_parts (t : Tree) : t ∈ t.parts := by
  cases t <;> simp [parts]

theorem mem_parts_joined {op : Tree → Tree → Tree}
    (hop : ∀ t u, (op t u).parts = op t u :: (t.parts ++ u.parts)) (ht : t ∈ ts) (hu : u ∈ t.parts) :
    u ∈ (joined op ts).parts := by
  induction ts with
  | nil => cases ht
  | cons v vs ih =>
      cases vs with
      | nil =>
          obtain rfl := List.mem_singleton.1 ht
          exact hu
      | cons w ws =>
          have hjoined : joined op (v :: w :: ws) = op v (joined op (w :: ws)) := rfl
          rw [hjoined, hop]
          rcases List.mem_cons.1 ht with rfl | ht
          · exact List.mem_cons_of_mem _ (List.mem_append_left _ hu)
          · exact List.mem_cons_of_mem _ (List.mem_append_right _ (ih ht))

theorem mem_parts_ofPieces (ht : t ∈ ts) (hu : u ∈ t.parts) : u ∈ (ofPieces ts).parts := by
  rw [ofPieces_eq_joined]
  exact mem_parts_joined (fun _ _ => rfl) ht hu

theorem mem_parts_ofAlternatives (ht : t ∈ ts) (hu : u ∈ t.parts) : u ∈ (ofAlternatives ts).parts := by
  rw [ofAlternatives_eq_joined]
  exact mem_parts_joined (fun _ _ => rfl) ht hu

theorem length_enclosed (i : Nat) (t : Tree) : (t.enclosed i).length = t.groups.count i := by
  unfold enclosed
  induction t with
  | «repeat» min max greedy t ih => exact ih
  | group kind t ih =>
      cases kind with
      | capture j name =>
          by_cases hj : j = i
          · simp [parts, content?, groups, hj, ih]
          · simp [parts, content?, groups, hj, ih]
      | «scoped» changes => exact ih
  | seq t u iht ihu | alt t u iht ihu =>
      rw [parts, List.filterMap_cons_none rfl, List.filterMap_append, List.length_append, iht, ihu, groups,
        List.count_append]
  | empty | flags | literal | dot | assertion | «class» => rfl

/-- Where no two groups share a number, a number tells what its group holds. -/
theorem enclosed_eq {name : Option String} (hnodup : t.groups.Nodup)
    (h : .group (.capture i name) u ∈ t.parts) : t.enclosed i = [u] := by
  have hmem : u ∈ t.enclosed i := List.mem_filterMap.2 ⟨_, h, by simp [content?]⟩
  have hlength := length_enclosed i t
  have hle := List.nodup_iff_count_le_one.1 hnodup i
  match hlist : t.enclosed i, hmem with
  | [v], hmem => rw [List.mem_singleton.1 hmem]
  | v :: w :: ws, _ =>
      rw [hlist, List.length_cons, List.length_cons] at hlength
      omega

theorem groups_eq_labels (t : Tree) : t.groups = t.labels.map Prod.fst := by
  induction t with
  | «repeat» min max greedy t ih => exact ih
  | group kind t ih =>
      cases kind with
      | capture j name => exact congrArg _ ih
      | «scoped» changes => exact ih
  | seq t u iht ihu | alt t u iht ihu => simp [groups, labels, iht, ihu]
  | empty | flags | literal | dot | assertion | «class» => rfl

theorem labels_joined {op : Tree → Tree → Tree} (hop : ∀ t u, (op t u).labels = t.labels ++ u.labels)
    (ts : List Tree) : (joined op ts).labels = ts.flatMap labels := by
  induction ts with
  | nil => rfl
  | cons t ts ih =>
      cases ts with
      | nil => simp [joined]
      | cons u us => rw [List.flatMap_cons, ← ih, ← hop]; rfl

theorem labels_ofPieces (ts : List Tree) : (ofPieces ts).labels = ts.flatMap labels := by
  rw [ofPieces_eq_joined, labels_joined fun _ _ => rfl]

theorem labels_ofAlternatives (ts : List Tree) : (ofAlternatives ts).labels = ts.flatMap labels := by
  rw [ofAlternatives_eq_joined, labels_joined fun _ _ => rfl]

theorem lies_ofAlternatives {c : Choice} {z : Zone} (hne : ts ≠ []) (h : ∀ t ∈ ts, t.Lies c z) :
    (ofAlternatives ts).Lies c z := by
  cases ts with
  | nil => exact absurd rfl hne
  | cons t ts => exact lies_ofBranches h

theorem relabel_joined (f : GroupKind → GroupKind) (op : Tree → Tree → Tree)
    (hop : ∀ t u, (op t u).relabel f = op (t.relabel f) (u.relabel f)) (ts : List Tree) :
    (joined op ts).relabel f = joined op (ts.map (relabel f)) := by
  induction ts with
  | nil => rfl
  | cons t ts ih =>
      cases ts with
      | nil => rfl
      | cons u us => exact (hop t _).trans (congrArg _ ih)

theorem relabel_ofPieces (f : GroupKind → GroupKind) (ts : List Tree) :
    (ofPieces ts).relabel f = ofPieces (ts.map (relabel f)) := by
  rw [ofPieces_eq_joined, ofPieces_eq_joined]
  exact relabel_joined f .seq (fun _ _ => rfl) ts

theorem relabel_ofAlternatives (f : GroupKind → GroupKind) (ts : List Tree) :
    (ofAlternatives ts).relabel f = ofAlternatives (ts.map (relabel f)) := by
  rw [ofAlternatives_eq_joined, ofAlternatives_eq_joined]
  exact relabel_joined f .alt (fun _ _ => rfl) ts

theorem relabel_of_groups {f : GroupKind → GroupKind} (hf : ∀ changes, f (.scoped changes) = .scoped changes)
    (h : t.groups = []) : t.relabel f = t := by
  induction t with
  | «repeat» min max greedy t ih => rw [relabel, ih h]
  | group kind t ih =>
      cases kind with
      | capture j name => cases h
      | «scoped» changes => rw [relabel, hf, ih h]
  | seq t u iht ihu | alt t u iht ihu =>
      obtain ⟨ht, hu⟩ := List.append_eq_nil_iff.1 h
      rw [relabel, iht ht, ihu hu]
  | empty | flags | literal | dot | assertion | «class» => rfl

theorem shift_eq_relabel (k : Nat) (t : Tree) : t.shift k = t.relabel (.shift k) := by
  induction t with
  | «repeat» min max greedy t ih | group kind t ih => rw [shift, relabel, ih]
  | seq t u iht ihu | alt t u iht ihu => rw [shift, relabel, iht, ihu]
  | empty | flags | literal | dot | assertion | «class» => rfl

theorem shift_of_groups (h : t.groups = []) (k : Nat) : t.shift k = t := by
  rw [shift_eq_relabel, relabel_of_groups (fun _ => rfl) h]

theorem groups_shift (k : Nat) (t : Tree) : (t.shift k).groups = t.groups.map (· + k) := by
  induction t with
  | «repeat» min max greedy t ih => exact ih
  | group kind t ih =>
      cases kind with
      | capture j name => exact congrArg _ ih
      | «scoped» changes => exact ih
  | seq t u iht ihu | alt t u iht ihu => simp [shift, groups, iht, ihu]
  | empty | flags | literal | dot | assertion | «class» => rfl

end Tree

def GroupKind.labels : GroupKind → List (Nat × Option String)
  | .capture i name => [(i, name)]
  | .scoped _ => []

theorem GroupKind.groups_eq_labels (kind : GroupKind) : kind.groups = kind.labels.map Prod.fst := by
  cases kind <;> rfl

theorem Tree.labels_group (kind : GroupKind) (t : Tree) : (group kind t).labels = kind.labels ++ t.labels := by
  cases kind <;> rfl

namespace Level

variable {l : Level} {t u : Tree}

theorem finish_eq (l : Level) : l.finish = .ofAlternatives (l.branch :: l.branches).reverse := by
  unfold finish
  split
  · next heq => rw [heq]; rfl
  · next heq => rw [heq]; rfl

def labels (l : Level) : List (Nat × Option String) := (l.pieces ++ l.branches).flatMap Tree.labels

theorem labels_push (t : Tree) : (l.push t).labels = t.labels ++ l.labels := rfl

theorem labels_branch (l : Level) : l.branch.labels.Perm (l.pieces.flatMap Tree.labels) := by
  rw [branch, Tree.labels_ofPieces]
  exact (List.reverse_perm _).flatMap_right _

theorem labels_finish (l : Level) : l.finish.labels.Perm l.labels := by
  rw [finish_eq, Tree.labels_ofAlternatives]
  refine ((List.reverse_perm _).flatMap_right _).trans ?_
  rw [List.flatMap_cons, labels, List.flatMap_append]
  exact l.labels_branch.append_right _

theorem labels_bar (l : Level) : l.bar.labels.Perm l.labels := by
  rw [labels, labels, bar, List.nil_append, List.flatMap_cons, List.flatMap_append]
  exact l.labels_branch.append_right _

theorem groups_eq_labels (l : Level) : l.groups = l.labels.map Prod.fst := by
  simp only [groups, labels, List.map_flatMap, ← Tree.groups_eq_labels]

theorem groups_finish (l : Level) : l.finish.groups.Perm l.groups := by
  rw [Tree.groups_eq_labels, groups_eq_labels]
  exact l.labels_finish.map _

def parts (l : Level) : List Tree := (l.pieces ++ l.branches).flatMap Tree.parts

theorem mem_parts_push (l : Level) (t : Tree) : t ∈ (l.push t).parts :=
  List.mem_append_left _ (Tree.self_mem_parts t)

theorem mem_parts_finish (h : u ∈ l.parts) : u ∈ l.finish.parts := by
  rw [finish_eq]
  obtain ⟨t, ht, hu⟩ := List.mem_flatMap.1 h
  rcases List.mem_append.1 ht with ht | ht
  · have hbranch : u ∈ l.branch.parts := Tree.mem_parts_ofPieces (List.mem_reverse.2 ht) hu
    exact Tree.mem_parts_ofAlternatives (by simp) hbranch
  · exact Tree.mem_parts_ofAlternatives (by simp [ht]) hu

theorem mem_parts_bar (h : u ∈ l.parts) : u ∈ l.bar.parts := by
  obtain ⟨t, ht, hu⟩ := List.mem_flatMap.1 h
  rcases List.mem_append.1 ht with ht | ht
  · exact List.mem_append_left _ (Tree.mem_parts_ofPieces (List.mem_reverse.2 ht) hu)
  · exact List.mem_append_right _ (List.mem_flatMap.2 ⟨t, ht, hu⟩)

def shift (k : Nat) (l : Level) : Level := ⟨l.pieces.map (.shift k), l.branches.map (.shift k)⟩

def relabel (f : GroupKind → GroupKind) (l : Level) : Level :=
  ⟨l.pieces.map (.relabel f), l.branches.map (.relabel f)⟩

theorem branch_relabel (f : GroupKind → GroupKind) (l : Level) :
    (l.relabel f).branch = l.branch.relabel f := by
  rw [branch, branch, Tree.relabel_ofPieces, List.map_reverse]
  rfl

theorem finish_relabel (f : GroupKind → GroupKind) (l : Level) :
    (l.relabel f).finish = l.finish.relabel f := by
  rw [finish_eq, finish_eq, Tree.relabel_ofAlternatives, branch_relabel, List.map_reverse]
  rfl

theorem shift_eq_relabel (k : Nat) (l : Level) : l.shift k = l.relabel (.shift k) := by
  have hshift : Tree.shift k = .relabel (.shift k) := funext (Tree.shift_eq_relabel k)
  rw [shift, hshift, relabel]

theorem branch_shift (k : Nat) (l : Level) : (l.shift k).branch = l.branch.shift k := by
  rw [shift_eq_relabel, branch_relabel, Tree.shift_eq_relabel]

theorem finish_shift (k : Nat) (l : Level) : (l.shift k).finish = l.finish.shift k := by
  rw [shift_eq_relabel, finish_relabel, Tree.shift_eq_relabel]

end Level

def OpenGroup.labels (g : OpenGroup) : List (Nat × Option String) := g.kind.labels ++ g.before.labels

theorem OpenGroup.groups_eq_labels (g : OpenGroup) : g.groups = g.labels.map Prod.fst := by
  rw [groups, labels, GroupKind.groups_eq_labels, Level.groups_eq_labels, List.map_append]

def Item.labels (captures : Nat) : Item → List (Nat × Option String)
  | .opening (.capture name) => [(captures + 1, name)]
  | _ => []

namespace Builder

variable {b b' : Builder} {item : Item} {cs rest : List Char} {u : Tree}

def groups (b : Builder) : List Nat := b.level.groups ++ b.outer.flatMap OpenGroup.groups

def labels (b : Builder) : List (Nat × Option String) := b.level.labels ++ b.outer.flatMap OpenGroup.labels

structure Distinct (b : Builder) : Prop where
  nodup : b.groups.Nodup
  mem_iff : ∀ i, i ∈ b.groups ↔ 0 < i ∧ i ≤ b.captures

theorem Distinct.of_perm (h : b.Distinct) (hperm : b'.groups.Perm b.groups)
    (hcaptures : b'.captures = b.captures) : b'.Distinct :=
  ⟨hperm.nodup_iff.2 h.nodup, fun i => hcaptures ▸ hperm.mem_iff.trans (h.mem_iff i)⟩

theorem Distinct.nodup_finish (h : b.Distinct) : b.level.finish.groups.Nodup :=
  (b.level.groups_finish).nodup_iff.2 (List.nodup_append.1 h.nodup).1

theorem Distinct.mem_groups_finish (h : b.Distinct) (houter : b.outer = []) {i : Nat} :
    i ∈ b.level.finish.groups ↔ 0 < i ∧ i ≤ b.captures := by
  have hgroups : b.groups = b.level.groups := by simp [groups, houter]
  rw [(b.level.groups_finish).mem_iff, ← hgroups, h.mem_iff]

theorem groups_eq_labels (b : Builder) : b.groups = b.labels.map Prod.fst := by
  rw [groups, labels, Level.groups_eq_labels, List.map_append, List.map_flatMap,
    funext OpenGroup.groups_eq_labels]

theorem Pushes.labels_perm (h : b.Pushes item b') (hflat : item.Flat) :
    b'.labels.Perm (item.labels b.captures ++ b.labels) := by
  cases h with
  | piece t =>
      have ht : t.labels = [] := by
        have hgroups : t.groups = [] := hflat
        rwa [Tree.groups_eq_labels, List.map_eq_nil_iff] at hgroups
      refine .of_eq ?_
      rw [labels, Level.labels_push, ht]
      rfl
  | operator min max greedy hlast =>
      refine .of_eq ?_
      simp [labels, Level.labels, hlast, Tree.labels, Item.labels]
  | directive changes | capture name names | modes changes => exact .of_eq rfl
  | bar => exact b.level.labels_bar.append_right _
  | @closing g outer houter =>
      rw [labels, labels, houter, List.flatMap_cons, OpenGroup.labels, Level.labels_push, Tree.labels_group]
      have hfinish := b.level.labels_finish
      refine List.perm_iff_count.2 fun i => ?_
      have := hfinish.count_eq i
      simp only [Item.labels, List.nil_append, List.count_append]
      omega

theorem Pushes.distinct (h : b.Pushes item b') (hflat : item.Flat) (hb : b.Distinct) : b'.Distinct := by
  have hperm := (h.labels_perm hflat).map Prod.fst
  rw [← groups_eq_labels, List.map_append, ← groups_eq_labels] at hperm
  cases h with
  | piece | operator | directive | modes | bar | closing => exact hb.of_perm hperm rfl
  | capture name names =>
      have hfresh : b.captures + 1 ∉ b.groups := fun hmem =>
        Nat.not_succ_le_self _ ((hb.mem_iff _).1 hmem).2
      refine ⟨hperm.nodup_iff.2 (List.nodup_cons.2 ⟨hfresh, hb.nodup⟩), fun i => ?_⟩
      have hmem : i = b.captures + 1 ∨ i ∈ b.groups ↔ 0 < i ∧ i ≤ b.captures + 1 := by
        rw [hb.mem_iff]
        omega
      exact hperm.mem_iff.trans (List.mem_cons.trans hmem)

theorem Reads.distinct (h : Reads b cs b' rest) (hb : b.Distinct) : b'.Distinct := by
  induction h with
  | done => exact hb
  | item hread _ hpush _ ih => exact ih (hpush.distinct (Item.flat_of_read hread) hb)

theorem Above.distinct {depth : Nat} (h : b.Above 0 [] depth) (hcaptures : b.captures = 0) :
    b.Distinct := by
  obtain ⟨-, inner, houter, -, hgroups⟩ := h
  have hnone : b.groups = [] := by
    refine List.eq_nil_iff_forall_not_mem.2 fun i hi => ?_
    rw [groups, houter, List.append_nil] at hi
    have := hgroups i hi
    omega
  refine ⟨by simp [hnone], fun i => ?_⟩
  simp only [hnone, hcaptures, List.not_mem_nil, false_iff]
  omega

def parts (b : Builder) : List Tree := b.level.parts ++ b.outer.flatMap fun g => g.before.parts

theorem Pushes.mem_parts (h : b.Pushes item b') (hu : u ∈ b.parts) : u ∈ b'.parts := by
  rcases List.mem_append.1 hu with hlevel | houter
  · cases h with
    | piece t | directive changes =>
        exact List.mem_append_left _ (List.mem_append_right _ hlevel)
    | operator min max greedy hlast =>
        rw [Level.parts, hlast] at hlevel
        exact List.mem_append_left _ (List.mem_cons_of_mem _ hlevel)
    | capture name names | modes changes =>
        exact List.mem_append_right _ (List.mem_append_left _ hlevel)
    | bar => exact List.mem_append_left _ (Level.mem_parts_bar hlevel)
    | closing heq =>
        refine List.mem_append_left _ (List.mem_append_left _ ?_)
        exact List.mem_cons_of_mem _ (Level.mem_parts_finish hlevel)
  · cases h with
    | piece | operator | directive | bar => exact List.mem_append_right _ houter
    | capture name names | modes changes =>
        exact List.mem_append_right _ (List.mem_append_right _ houter)
    | closing heq =>
        rw [heq, List.flatMap_cons] at houter
        rcases List.mem_append.1 houter with hbefore | houter
        · exact List.mem_append_left _ (List.mem_append_right _ hbefore)
        · exact List.mem_append_right _ houter

theorem Reads.mem_parts (h : Reads b cs b' rest) (hu : u ∈ b.parts) : u ∈ b'.parts := by
  induction h with
  | done => exact hu
  | item _ _ hpush _ ih => exact ih (hpush.mem_parts hu)

/-- What has been read is a part of the tree in the end. -/
theorem Reads.mem_parts_finish (h : Reads b cs b' rest) (houter : b'.outer = []) (hu : u ∈ b.level.parts) :
    u ∈ b'.level.finish.parts := by
  have hlast : b'.parts = b'.level.parts := by simp [parts, houter]
  exact Level.mem_parts_finish (hlast ▸ h.mem_parts (List.mem_append_left _ hu))

theorem Reads.mem_parts_last {l : Level} {t : Tree} (h : Reads b cs b' rest) (houter : b'.outer = [])
    (hlevel : b.level = l.push t) : t ∈ b'.level.finish.parts :=
  h.mem_parts_finish houter (hlevel ▸ l.mem_parts_push t)

theorem Reads.mem_parts_repeat {l : Level} {t : Tree} {min : Nat} {max : Option Nat} {greedy : Bool}
    (h : Reads b cs b' []) (houter : b'.outer = []) (hlevel : b.level = l.push t)
    (hread : Item.read false cs = some (.operator min max greedy, rest)) :
    .repeat min max greedy t ∈ b'.level.finish.parts := by
  obtain ⟨b₂, hpush, -, h⟩ := h.peel hread
  refine h.mem_parts_finish houter ?_
  cases hpush with
  | operator _ _ _ hpieces =>
      rw [hlevel] at hpieces
      obtain ⟨rfl, rfl⟩ := List.cons.inj hpieces
      exact List.mem_append_left _ (Tree.self_mem_parts _)

end Builder

end Patchwork.Regex
