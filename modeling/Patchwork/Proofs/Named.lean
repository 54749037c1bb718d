import Mathlib.Order.Bounds.Basic
import Patchwork.Proofs.Query

namespace Patchwork

def Listed {β : Type} (comes : Nat → β → Prop) (entries : List β) : Prop :=
  ∃ numbered : List (Nat × β), numbered.map Prod.snd = entries ∧ numbered.Pairwise (·.1 < ·.1) ∧
    ∀ e ∈ numbered, comes e.1 e.2

namespace Listed

variable {β γ : Type} {comes comes' : Nat → β → Prop} {entries : List β}

theorem nil : Listed comes [] := ⟨[], rfl, List.Pairwise.nil, by simp⟩

theorem imp (h : Listed comes entries) (himp : ∀ i e, comes i e → comes' i e) : Listed comes' entries := by
  obtain ⟨numbered, heq, hsorted, hcomes⟩ := h
  exact ⟨numbered, heq, hsorted, fun e he => himp _ _ (hcomes e he)⟩

theorem exists_of_mem (h : Listed comes entries) {e : β} (he : e ∈ entries) : ∃ i, comes i e := by
  obtain ⟨numbered, rfl, -, hcomes⟩ := h
  obtain ⟨numbered, hmem, rfl⟩ := List.mem_map.1 he
  exact ⟨numbered.1, hcomes numbered hmem⟩

theorem append_singleton (h : Listed comes entries) {i : Nat} {e : β} (he : comes' i e)
    (hbelow : ∀ j e', comes j e' → j < i ∧ comes' j e') : Listed comes' (entries ++ [e]) := by
  obtain ⟨numbered, rfl, hsorted, hcomes⟩ := h
  refine ⟨numbered ++ [(i, e)], by simp, ?_, ?_⟩
  · rw [List.pairwise_append]
    refine ⟨hsorted, List.pairwise_singleton .., fun e' he' last hlast => ?_⟩
    rw [List.mem_singleton.1 hlast]
    exact (hbelow _ _ (hcomes e' he')).1
  · rw [List.forall_mem_append, List.forall_mem_singleton]
    exact ⟨fun e' he' => (hbelow _ _ (hcomes e' he')).2, he⟩

theorem nodup_map (h : Listed comes entries) {key : β → γ}
    (hkey : ∀ i j e e', comes i e → comes j e' → key e = key e' → i = j) : (entries.map key).Nodup := by
  obtain ⟨numbered, rfl, hsorted, hcomes⟩ := h
  rw [List.map_map, List.Nodup, List.pairwise_map]
  refine hsorted.imp_of_mem fun {e e'} he he' hlt heq => ?_
  exact Nat.ne_of_lt hlt (hkey _ _ _ _ (hcomes e he) (hcomes e' he') heq)

end Listed

theorem isLeast_iff_find? {indices : List Nat} (h : indices.Pairwise (· < ·)) (p : Nat → Bool) (i : Nat) :
    indices.find? p = some i ↔ IsLeast {j | j ∈ indices ∧ p j} i := by
  induction indices with
  | nil => simp [IsLeast]
  | cons a indices ih =>
      obtain ⟨ha, hrest⟩ := List.pairwise_cons.1 h
      cases hp : p a with
      | true =>
          rw [List.find?_cons_of_pos hp, Option.some.injEq]
          have hleast : IsLeast {j | j ∈ a :: indices ∧ p j} a := by
            refine ⟨⟨List.mem_cons_self, hp⟩, fun j hj => ?_⟩
            rcases List.mem_cons.1 hj.1 with rfl | hj
            · exact Nat.le_refl _
            · exact Nat.le_of_lt (ha j hj)
          exact ⟨fun heq => heq ▸ hleast, hleast.unique⟩
      | false =>
          have hset : {j | j ∈ a :: indices ∧ p j} = {j | j ∈ indices ∧ p j} := by
            ext j
            simp only [Set.mem_ofPred_eq, List.mem_cons, or_and_right, or_iff_right_iff_imp]
            rintro ⟨rfl, hj⟩
            simp [hp] at hj
          rw [List.find?_cons_of_neg (by simp [hp]), ih hrest, hset]

namespace Match

variable {m : Match} {c : CompiledExpression} {text name : String} {i : Nat}

def bearers (m : Match) (name : String) : Set Nat := {i | m.groupName? i = some name}

def takers (m : Match) (name : String) : Set Nat := {i | m.groupName? i = some name ∧ m.participated i}

theorem groupName?_eq_some_iff : m.groupName? i = some name ↔ (i, name) ∈ m.expression.names.toList :=
  GroupMap.get?_eq_some_iff

theorem mem_indicesOf_iff : i ∈ m.expression.names.indicesOf name ↔ m.groupName? i = some name := by
  rw [groupName?_eq_some_iff]
  simp [GroupNames.indicesOf]

theorem pairwise_indicesOf (names : GroupNames) (name : String) :
    (names.indicesOf name).Pairwise (· < ·) :=
  List.pairwise_map.2 (names.sorted.filter _)

theorem find?_participated_iff :
    (m.expression.names.indicesOf name).find? m.participated = some i ↔ IsLeast (m.takers name) i := by
  rw [isLeast_iff_find? (pairwise_indicesOf _ _)]
  simp only [mem_indicesOf_iff, takers]

theorem head?_indicesOf_iff :
    (m.expression.names.indicesOf name).head? = some i ↔ IsLeast (m.bearers name) i := by
  have hfind := isLeast_iff_find? (pairwise_indicesOf m.expression.names name) (fun _ => true) i
  have hhead : (m.expression.names.indicesOf name).find? (fun _ => true) =
      (m.expression.names.indicesOf name).head? := by
    cases m.expression.names.indicesOf name <;> rfl
  simpa only [hhead, mem_indicesOf_iff, and_true, bearers] using hfind

theorem groupIndex?_eq_some_iff :
    m.groupIndex? name = some i ↔
      IsLeast (m.takers name) i ∨ m.takers name = ∅ ∧ IsLeast (m.bearers name) i := by
  have hnone : (m.expression.names.indicesOf name).find? m.participated = none ↔ m.takers name = ∅ := by
    simp only [List.find?_eq_none, mem_indicesOf_iff, Set.eq_empty_iff_forall_notMem, takers,
      Set.mem_ofPred_eq, not_and]
  rw [groupIndex?, Option.or_eq_some_iff, find?_participated_iff, hnone, head?_indicesOf_iff]

theorem groupIndex?_eq_none_iff : m.groupIndex? name = none ↔ m.bearers name = ∅ := by
  simp only [groupIndex?, Option.or_eq_none_iff, List.head?_eq_none_iff, Set.eq_empty_iff_forall_notMem,
    List.eq_nil_iff_forall_not_mem, mem_indicesOf_iff, bearers, Set.mem_ofPred_eq, and_iff_right_iff_imp,
    List.find?_eq_none]
  exact fun hnone i hi => absurd hi (hnone i)

theorem get?_index_eq_some_iff {value : String} :
    m.get? (.index i) = some value ↔ ∃ span, m.spanAt? i = some span ∧ Text.slice m.text span = value := by
  rw [get?_index, values, List.getElem?_map, spanAt?]
  cases m.spans[i]? <;> simp

theorem participated_iff_get? : m.participated i ↔ ∃ value, m.get? (.index i) = some value := by
  simp only [participated_iff, get?_index_eq_some_iff]
  exact ⟨fun ⟨span, h⟩ => ⟨_, span, h, rfl⟩, fun ⟨_, span, h, _⟩ => ⟨span, h⟩⟩

theorem get?_name_of_groupIndex? (h : m.groupIndex? name = some i) :
    m.get? (.name name) = m.get? (.index i) := by
  rw [get?_index, values, List.getElem?_map, get?, span?, index?, h, Option.bind_some, spanAt?]
  cases m.spans[i]? <;> rfl

theorem get?_name_eq_some_iff {value : String} :
    m.get? (.name name) = some value ↔ ∃ i, IsLeast (m.takers name) i ∧ m.get? (.index i) = some value := by
  constructor
  · intro h
    cases hindex : m.groupIndex? name with
    | none => simp [get?, span?, index?, hindex] at h
    | some j =>
        rw [get?_name_of_groupIndex? hindex] at h
        have htook : m.participated j := participated_iff_get?.2 ⟨value, h⟩
        rcases groupIndex?_eq_some_iff.1 hindex with hleast | ⟨hempty, hleast⟩
        · exact ⟨j, hleast, h⟩
        · exact absurd ⟨hleast.1, htook⟩ (Set.eq_empty_iff_forall_notMem.1 hempty j)
  · rintro ⟨j, hleast, h⟩
    rw [get?_name_of_groupIndex? (groupIndex?_eq_some_iff.2 (.inl hleast)), h]

/-- A group gives the value for a name in the first entries of the table of names: it is the lowest of the
groups of that name that took part. -/
structure Supplies (m : Match) (entries : List (Nat × String)) (i : Nat) (e : String × String) : Prop where
  mem : (i, e.1) ∈ entries
  value : m.get? (.index i) = some e.2
  least : ∀ j, (j, e.1) ∈ entries → m.participated j → i ≤ j

structure Gathered (m : Match) (entries : List (Nat × String)) (named : List (String × String)) : Prop where
  listed : Listed (m.Supplies entries) named
  complete : ∀ e ∈ entries, m.participated e.1 → e.2 ∈ named.map Prod.fst

def gather (m : Match) (named : List (String × String)) (e : Nat × String) : List (String × String) :=
  if named.any (·.1 = e.2) then named
  else match m.get? (.index e.1) with
    | some value => named ++ [(e.2, value)]
    | none => named

section Gathering

variable {entries : List (Nat × String)} {named : List (String × String)} {e : Nat × String}

/-- A group that gives a value still does after an entry with a greater number. -/
theorem Supplies.append {e' : String × String} (h : m.Supplies entries i e')
    (hsorted : ∀ e' ∈ entries, e'.1 < e.1) : i < e.1 ∧ m.Supplies (entries ++ [e]) i e' := by
  have hlt : i < e.1 := hsorted _ h.mem
  refine ⟨hlt, List.mem_append_left _ h.mem, h.value, fun j hj htook => ?_⟩
  rcases List.mem_append.1 hj with hj | hj
  · exact h.least j hj htook
  · rw [← List.mem_singleton.1 hj] at hlt
    exact Nat.le_of_lt hlt

theorem Gathered.step (h : m.Gathered entries named) (hsorted : ∀ e' ∈ entries, e'.1 < e.1) :
    m.Gathered (entries ++ [e]) (m.gather named e) := by
  have hkept : ∀ i e', m.Supplies entries i e' → i < e.1 ∧ m.Supplies (entries ++ [e]) i e' :=
    fun i e' h => h.append hsorted
  have hlisted : Listed (m.Supplies (entries ++ [e])) named := h.listed.imp fun i e' h => (hkept i e' h).2
  have hcomplete : ∀ {named' : List (String × String)}, named ⊆ named' →
      (m.participated e.1 → e.2 ∈ named'.map Prod.fst) →
      ∀ e' ∈ entries ++ [e], m.participated e'.1 → e'.2 ∈ named'.map Prod.fst := by
    intro named' hle hlast e' he' htook
    rcases List.mem_append.1 he' with he' | he'
    · exact List.map_subset Prod.fst hle (h.complete e' he' htook)
    · rw [List.mem_singleton.1 he'] at htook ⊢
      exact hlast htook
  unfold gather
  split
  · next hany =>
      exact ⟨hlisted, hcomplete (List.Subset.refl _) fun _ => by simpa using hany⟩
  · next hany =>
      have hfresh : e.2 ∉ named.map Prod.fst := by simpa using hany
      split
      · next value hvalue =>
          have hsupplies : m.Supplies (entries ++ [e]) e.1 (e.2, value) := by
            refine ⟨List.mem_append_right _ List.mem_cons_self, hvalue, fun j hj htook => ?_⟩
            rcases List.mem_append.1 hj with hj | hj
            · exact absurd (h.complete _ hj htook) hfresh
            · rw [← List.mem_singleton.1 hj]
          refine ⟨h.listed.append_singleton hsupplies hkept, hcomplete (List.subset_append_left _ _) fun _ => ?_⟩
          simp
      · next hnone =>
          refine ⟨hlisted, hcomplete (List.Subset.refl _) fun htook => ?_⟩
          obtain ⟨value, hvalue⟩ := participated_iff_get?.1 htook
          cases hnone.symm.trans hvalue

/-- The list of named groups has been gathered from the whole table. -/
theorem gathered_foldl (hsorted : entries.Pairwise (·.1 < ·.1)) :
    m.Gathered entries (entries.foldl m.gather []) := by
  induction entries using List.reverseRecOn with
  | nil => exact ⟨.nil, by simp⟩
  | append_singleton entries e ih =>
      obtain ⟨hsorted, -, hlast⟩ := List.pairwise_append.1 hsorted
      rw [List.foldl_append, List.foldl_cons, List.foldl_nil]
      exact (ih hsorted).step fun e' he' => hlast e' he' e List.mem_cons_self

end Gathering

theorem gathered_namedGroups (m : Match) : m.Gathered m.expression.names.toList m.namedGroups :=
  gathered_foldl m.expression.names.sorted

theorem supplies_iff {e : String × String} :
    m.Supplies m.expression.names.toList i e ↔
      IsLeast (m.takers e.1) i ∧ m.get? (.index i) = some e.2 := by
  constructor
  · rintro ⟨hmem, hvalue, hleast⟩
    have htook : m.participated i := participated_iff_get?.2 ⟨_, hvalue⟩
    refine ⟨⟨⟨groupName?_eq_some_iff.2 hmem, htook⟩, ?_⟩, hvalue⟩
    rintro j ⟨hj, htook⟩
    exact hleast j (groupName?_eq_some_iff.1 hj) htook
  · rintro ⟨⟨⟨hname, -⟩, hleast⟩, hvalue⟩
    exact ⟨groupName?_eq_some_iff.1 hname, hvalue,
      fun j hj htook => hleast ⟨groupName?_eq_some_iff.2 hj, htook⟩⟩

theorem listed_namedGroups (m : Match) :
    Listed (fun i e => IsLeast (m.takers e.1) i ∧ m.get? (.index i) = some e.2) m.namedGroups :=
  m.gathered_namedGroups.listed.imp fun _ _ => supplies_iff.1

theorem nodup_namedGroups (m : Match) : (m.namedGroups.map Prod.fst).Nodup := by
  refine m.listed_namedGroups.nodup_map ?_
  rintro i j ⟨name, value⟩ ⟨name', value'⟩ ⟨hi, -⟩ ⟨hj, -⟩ rfl
  exact hi.unique hj

theorem mem_namedGroups_iff {value : String} :
    (name, value) ∈ m.namedGroups ↔ m.get? (.name name) = some value := by
  constructor
  · intro h
    obtain ⟨i, hleast, hvalue⟩ := m.listed_namedGroups.exists_of_mem h
    exact get?_name_eq_some_iff.2 ⟨i, hleast, hvalue⟩
  · intro h
    obtain ⟨i, hleast, hvalue⟩ := get?_name_eq_some_iff.1 h
    have hmem := m.gathered_namedGroups.complete (i, name) (groupName?_eq_some_iff.1 hleast.1.1) hleast.1.2
    obtain ⟨⟨name', value'⟩, hentry, heq⟩ := List.mem_map.1 hmem
    obtain rfl : name' = name := heq
    obtain ⟨j, hleast', hvalue'⟩ := m.listed_namedGroups.exists_of_mem hentry
    rw [hleast'.unique hleast] at hvalue'
    cases hvalue'.symm.trans hvalue
    exact hentry

def numberedGroups (m : Match) : List (GroupKey × String) :=
  (List.range m.groupCount).filterMap fun i => (m.get? (.index i)).map fun value => (GroupKey.index i, value)

theorem mem_numberedGroups_iff {e : GroupKey × String} :
    e ∈ m.numberedGroups ↔ ∃ i, e.1 = .index i ∧ m.get? (.index i) = some e.2 := by
  obtain ⟨key, value⟩ := e
  simp only [numberedGroups, List.mem_filterMap, List.mem_range, Option.map_eq_some_iff, Prod.mk.injEq]
  constructor
  · rintro ⟨i, -, value, hvalue, rfl, rfl⟩
    exact ⟨i, rfl, hvalue⟩
  · rintro ⟨i, rfl, hvalue⟩
    have htook : m.participated i := participated_iff_get?.2 ⟨value, hvalue⟩
    exact ⟨i, lt_of_participated htook, value, hvalue, rfl, rfl⟩

theorem listed_numberedGroups (m : Match) :
    Listed (fun i e => e.1 = .index i ∧ m.get? (.index i) = some e.2) m.numberedGroups := by
  refine ⟨(List.range m.groupCount).filterMap fun i => (m.get? (.index i)).map fun value =>
    (i, GroupKey.index i, value), ?_, ?_, ?_⟩
  · simp only [List.map_filterMap, Option.map_map, Function.comp_def, numberedGroups]
  · refine List.pairwise_lt_range.filterMap _ ?_
    intro i j hlt e he e' he'
    obtain ⟨value, -, rfl⟩ := Option.map_eq_some_iff.1 he
    obtain ⟨value', -, rfl⟩ := Option.map_eq_some_iff.1 he'
    exact hlt
  · intro e he
    obtain ⟨i, -, hi⟩ := List.mem_filterMap.1 he
    obtain ⟨value, hvalue, rfl⟩ := Option.map_eq_some_iff.1 hi
    exact ⟨rfl, hvalue⟩

theorem nodup_numberedGroups (m : Match) : (m.numberedGroups.map Prod.fst).Nodup := by
  refine m.listed_numberedGroups.nodup_map ?_
  rintro i j ⟨key, value⟩ ⟨key', value'⟩ ⟨hi, -⟩ ⟨hj, -⟩ heq
  exact GroupKey.index.inj (hi.symm.trans (heq.trans hj))

theorem groups_eq (m : Match) : m.groups = m.numberedGroups ++ m.namedGroups.map fun e => (.name e.1, e.2) := rfl

theorem nodup_groups (m : Match) : (m.groups.map Prod.fst).Nodup := by
  have hnames : ((m.namedGroups.map fun e => (GroupKey.name e.1, e.2)).map Prod.fst).Nodup := by
    have hmap := m.nodup_namedGroups.map (f := GroupKey.name) fun _ _ => GroupKey.name.inj
    simpa only [List.map_map, Function.comp_def] using hmap
  rw [groups_eq, List.map_append, List.nodup_append]
  refine ⟨m.nodup_numberedGroups, hnames, ?_⟩
  intro key hnumbered key' hnamed
  obtain ⟨e, he, rfl⟩ := List.mem_map.1 hnumbered
  obtain ⟨i, hi, -⟩ := mem_numberedGroups_iff.1 he
  rw [List.map_map] at hnamed
  obtain ⟨e', -, rfl⟩ := List.mem_map.1 hnamed
  rw [hi]
  exact GroupKey.noConfusion

/-- The ways to read groups by their names agree, whichever groups share a name and whichever of them took
part. The number of a name is the lowest of its groups that took part, or else its lowest group. The named
groups are those names for which there is a value, with that value, in the order of the groups that it
comes from; the groups are those that took part in the order of their numbers, and then the named ones. -/
theorem named_groups_agree (h : m.Arises c text)
    (hindices : ∀ i name, m.groupName? i = some name → i < m.groupCount) :
    (∀ name, (∀ i, m.groupIndex? name = some i ↔
        IsLeast (m.takers name) i ∨ m.takers name = ∅ ∧ IsLeast (m.bearers name) i) ∧
        (m.groupIndex? name = none ↔ m.bearers name = ∅) ∧
        ∀ i, m.groupIndex? name = some i → m.queryText (.name name) = m.queryText (.index i)) ∧
      ∃ named numbered,
        m.queryNamed = .ok named ∧ (named.map Prod.fst).Nodup ∧
        (∀ name value, (name, value) ∈ named ↔ m.queryText (.name name) = .ok (some value)) ∧
        (∀ name, name ∉ named.map Prod.fst ↔ m.queryText (.name name) = .ok none) ∧
        Listed (fun i e => IsLeast (m.takers e.1) i ∧ m.queryText (.index i) = .ok (some e.2)) named ∧
        m.queryGroups = .ok (numbered ++ named.map fun e => (.name e.1, e.2)) ∧
        ((numbered ++ named.map fun e => (.name e.1, e.2)).map Prod.fst).Nodup ∧
        Listed (fun i e => e.1 = .index i ∧ m.queryText (.index i) = .ok (some e.2)) numbered ∧
        ∀ i, .index i ∈ numbered.map Prod.fst ↔ m.participated i := by
  have hlies := h.liesInText
  have hnumber : ∀ i, m.queryText (.index i) = .ok (m.get? (.index i)) :=
    fun i => (hlies.answers_index i).text
  have hlt : ∀ name i, m.groupIndex? name = some i → i < m.groupCount := by
    intro name i hi
    obtain ⟨other, hother⟩ := exists_name_of_groupIndex? hi
    exact hindices i other hother
  have hname : ∀ name, m.queryText (.name name) = .ok (m.get? (.name name)) := fun name => by
    have hanswers : m.Answers (.name name) := hlies.answers (hlt name)
    exact hanswers.text
  simp only [hnumber, hname, Except.ok.injEq]
  refine ⟨fun name => ⟨fun i => groupIndex?_eq_some_iff, groupIndex?_eq_none_iff, fun i hi => ?_⟩,
    m.namedGroups, m.numberedGroups, hlies.queryNamed_eq, m.nodup_namedGroups,
    fun name value => mem_namedGroups_iff, fun name => ?_, m.listed_namedGroups, hlies.reports.groups,
    m.nodup_groups, m.listed_numberedGroups, fun i => ?_⟩
  · rw [get?_name_of_groupIndex? hi]
  · rw [← Option.not_isSome_iff_eq_none, not_iff_not]
    simp [Option.isSome_iff_exists, mem_namedGroups_iff]
  · rw [participated_iff_get?]
    constructor
    · intro hkey
      obtain ⟨e, he, heq⟩ := List.mem_map.1 hkey
      obtain ⟨j, hj, hvalue⟩ := mem_numberedGroups_iff.1 he
      obtain rfl : i = j := GroupKey.index.inj (heq.symm.trans hj)
      exact ⟨e.2, hvalue⟩
    · rintro ⟨value, hvalue⟩
      exact List.mem_map.2 ⟨(.index i, value), mem_numberedGroups_iff.2 ⟨i, rfl, hvalue⟩, rfl⟩

/-- Of two groups of one name the one that took part is meant, be it the second. -/
theorem named_groups_agree_second :
    let w := (Definition.expression "a" "(?<n>y)").apply (.standard, .empty)
    ∃ c t m, (w.1.compile "(?<n>x)?${a}").run w.2 = (.ok c, t) ∧ c.find? "y" = some m ∧
      m.expression.names.toList = [(1, "n"), (3, "n")] ∧ m.groupIndex? "n" = some 3 ∧
      ∃ named, m.queryNamed = .ok named ∧
        ∀ name value, (name, value) ∈ named ↔ m.queryText (.name name) = .ok (some value) := by
  intro w
  have hok : ((w.1.compile "(?<n>x)?${a}").run w.2).1.toOption.any fun c : CompiledExpression =>
      (c.find? "y").any fun m => decide (m.expression.names.toList = [(1, "n"), (3, "n")] ∧
        m.groupIndex? "n" = some 3 ∧ m.groupCount = 4) := by decide +kernel
  obtain ⟨c, t, hrun, hc⟩ := Compiling.exists_run_of_any hok
  obtain ⟨m, hm, hfound⟩ := (Option.any_eq_true _ _).1 hc
  obtain ⟨hnames, hindex, hcount⟩ := of_decide_eq_true hfound
  have hindices : ∀ i name, m.groupName? i = some name → i < m.groupCount := by
    intro i name hi
    rw [groupName?_eq_some_iff, hnames] at hi
    simp only [List.mem_cons, Prod.mk.injEq, List.not_mem_nil, or_false] at hi
    omega
  obtain ⟨-, named, -, hnamed, -, hmem, -⟩ := named_groups_agree (.find hm) hindices
  exact ⟨c, t, m, hrun, hm, hnames, hindex, named, hnamed, hmem⟩

end Match

end Patchwork
