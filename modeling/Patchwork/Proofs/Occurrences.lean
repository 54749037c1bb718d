import Mathlib.Data.List.Basic
import Mathlib.Data.List.Induction
import Patchwork.Group.Anchors
import Patchwork.Proofs.Numbering

namespace Patchwork.Anchors

def recorded (calls : List (Nat × String)) : Anchors :=
  calls.foldl (fun anchors call => (anchors.register call.1 call.2).2) .empty

def indicesOf (calls : List (Nat × String)) (id : String) : List Nat :=
  (calls.filter fun call => call.2 = id).map Prod.fst

structure Records (calls : List (Nat × String)) (entries : List (Nat × Anchor)) : Prop where
  blocks : entries.map (fun e => (e.1, e.2.id)) = calls
  counted : ∀ i id k, (i, ⟨id, k⟩) ∈ entries ↔ (indicesOf calls id)[k]? = some i

variable {calls : List (Nat × String)} {entries : List (Nat × Anchor)} {anchors : Anchors}
  {index i k : Nat} {id : String}

theorem length_indicesOf (calls : List (Nat × String)) (id : String) :
    (indicesOf calls id).length = calls.countP fun call => call.2 = id := by
  rw [indicesOf, List.length_map, List.countP_eq_length_filter]

theorem indicesOf_append_singleton (calls : List (Nat × String)) (index : Nat) (id other : String) :
    indicesOf (calls ++ [(index, id)]) other =
      indicesOf calls other ++ if id = other then [index] else [] := by
  by_cases h : id = other <;> simp [indicesOf, h]

theorem getElem?_append_singleton_eq_some_iff {α : Type} {xs : List α} {x y : α} {k : Nat} :
    (xs ++ [x])[k]? = some y ↔ xs[k]? = some y ∨ y = x ∧ k = xs.length := by
  rcases Nat.lt_trichotomy k xs.length with hlt | rfl | hgt
  · rw [List.getElem?_append_left hlt]
    simp [Nat.ne_of_lt hlt]
  · simp [eq_comm]
  · rw [List.getElem?_eq_none (Nat.le_of_lt hgt), List.getElem?_eq_none]
    · simp [Nat.ne_of_gt hgt]
    · rw [List.length_append, List.length_singleton]
      exact hgt

theorem toList_register_of_lt (h : ∀ e ∈ anchors.toList, e.1 < index) (id : String) :
    (anchors.register index id).2.toList = anchors.toList ++ [(index, ⟨id, anchors.occurrences id⟩)] := by
  rw [register, GroupMap.toList_insert, GroupMap.insertEntry_of_lt h]

theorem ids_spec (anchors : Anchors) :
    (∀ id, id ∈ anchors.ids ↔ id ∈ anchors.values.map (·.id)) ∧
      anchors.ids.Pairwise fun a b =>
        (anchors.values.map (·.id)).idxOf a < (anchors.values.map (·.id)).idxOf b := by
  rw [ids]
  induction anchors.values using List.reverseRecOn with
  | nil => simp
  | append_singleton as a ih =>
      obtain ⟨hmem, hpairs⟩ := ih
      rw [List.foldl_append, List.foldl_cons, List.foldl_nil, List.map_append, List.map_singleton]
      generalize List.foldl _ [] as = seen at hmem hpairs ⊢
      have hkeep {b : String} (hb : b ∈ seen) :
          (as.map (·.id) ++ [a.id]).idxOf b = (as.map (·.id)).idxOf b :=
        List.idxOf_append_of_mem ((hmem b).1 hb)
      have hseen : seen.Pairwise fun b c =>
          (as.map (·.id) ++ [a.id]).idxOf b < (as.map (·.id) ++ [a.id]).idxOf c :=
        hpairs.imp_of_mem fun hb hc hlt => by rwa [hkeep hb, hkeep hc]
      by_cases ha : a.id ∈ seen
      · rw [if_pos ha]
        refine ⟨fun id => ?_, hseen⟩
        rw [List.mem_append, ← hmem, List.mem_singleton, or_iff_left_of_imp]
        rintro rfl
        exact ha
      · rw [if_neg ha]
        refine ⟨fun id => by rw [List.mem_append, List.mem_append, hmem], ?_⟩
        refine List.pairwise_append.2 ⟨hseen, List.pairwise_singleton _ _, fun b hb c hc => ?_⟩
        have hnew : a.id ∉ as.map (·.id) := fun h => ha ((hmem _).2 h)
        rw [List.mem_singleton.1 hc, hkeep hb, List.idxOf_append_of_notMem hnew]
        exact Nat.lt_add_right _ (List.idxOf_lt_length_of_mem ((hmem b).1 hb))

namespace Records

theorem nil : Records [] [] where
  blocks := rfl
  counted := by simp [indicesOf]

theorem append (h : Records calls entries) (index : Nat) (id : String) :
    Records (calls ++ [(index, id)])
      (entries ++ [(index, ⟨id, calls.countP fun call => call.2 = id⟩)]) where
  blocks := by
    rw [List.map_append, h.blocks]
    rfl
  counted i other k := by
    rw [List.mem_append, h.counted, indicesOf_append_singleton, List.mem_singleton]
    by_cases hid : id = other
    · subst hid
      rw [if_pos rfl, getElem?_append_singleton_eq_some_iff, Prod.mk.injEq, Anchor.mk.injEq, length_indicesOf]
      simp only [true_and]
    · simp [hid, Ne.symm hid]

theorem map_id_values (h : Records calls anchors.toList) :
    anchors.values.map (·.id) = calls.map Prod.snd := by
  rw [← h.blocks, GroupMap.values, List.map_map, List.map_map]
  rfl

theorem occurrences_eq (h : Records calls anchors.toList) (id : String) :
    anchors.occurrences id = calls.countP fun call => call.2 = id := by
  rw [← h.blocks, occurrences, GroupMap.values, List.countP_map, List.countP_map]
  rfl

theorem get?_eq_some_iff (h : Records calls anchors.toList) :
    anchors.get? i = some ⟨id, k⟩ ↔ (indicesOf calls id)[k]? = some i := by
  rw [GroupMap.get?_eq_some_iff, h.counted]

theorem find?_eq (h : Records calls anchors.toList) (id : String) (k : Nat) :
    anchors.find? id k = (indicesOf calls id)[k]? := by
  rw [find?]
  cases hfind : anchors.toList.find? fun e => e.2 = ⟨id, k⟩ with
  | some e =>
      have hanchor : e.2 = ⟨id, k⟩ := by simpa using List.find?_some hfind
      have hmem : (e.1, ⟨id, k⟩) ∈ anchors.toList := hanchor ▸ List.mem_of_find?_eq_some hfind
      exact ((h.counted _ id k).1 hmem).symm
  | none =>
      refine (Option.eq_none_iff_forall_ne_some.2 fun i hi => ?_).symm
      simpa using List.find?_eq_none.1 hfind _ ((h.counted i id k).2 hi)

theorem isSome_find?_iff (h : Records calls anchors.toList) (id : String) (k : Nat) :
    (anchors.find? id k).isSome ↔ k < anchors.occurrences id := by
  rw [h.find?_eq, h.occurrences_eq, ← length_indicesOf]
  simp

theorem recorded (h : calls.Pairwise (·.1 < ·.1)) : Records calls (recorded calls).toList := by
  induction calls using List.reverseRecOn with
  | nil => exact .nil
  | append_singleton calls call ih =>
      obtain ⟨hcalls, -, hlast⟩ := List.pairwise_append.1 h
      have hrecords := ih hcalls
      have hbelow : ∀ e ∈ (Anchors.recorded calls).toList, e.1 < call.1 := by
        intro e he
        refine hlast (e.1, e.2.id) ?_ call List.mem_cons_self
        rw [← hrecords.blocks]
        exact List.mem_map_of_mem he
      have hstep := hrecords.append call.1 call.2
      rw [← hrecords.occurrences_eq, ← toList_register_of_lt hbelow] at hstep
      rw [Anchors.recorded, List.foldl_append]
      exact hstep

end Records

/-- Occurrences are dense and can be found again. Where blocks are recorded by rising numbers, each is given
the number of blocks recorded for its identifier before; an identifier and an occurrence are found just at the
number whose entry they are, which is that of the block with as many before it; and the identifiers are listed
each once, in the order of their first blocks. -/
theorem recorded_invertible (h : calls.Pairwise (·.1 < ·.1)) :
    (∀ before index id after, calls = before ++ (index, id) :: after →
        ((recorded before).register index id).1 = before.countP fun call => call.2 = id) ∧
      (∀ id k i, (recorded calls).find? id k = some i ↔ (recorded calls).get? i = some ⟨id, k⟩) ∧
      (∀ id k i, (recorded calls).get? i = some ⟨id, k⟩ ↔ (indicesOf calls id)[k]? = some i) ∧
      (∀ id, (recorded calls).occurrences id = calls.countP fun call => call.2 = id) ∧
      (∀ id, id ∈ (recorded calls).ids ↔ id ∈ calls.map Prod.snd) ∧
      (recorded calls).ids.Pairwise fun a b =>
        (calls.map Prod.snd).idxOf a < (calls.map Prod.snd).idxOf b := by
  have hrecords := Records.recorded h
  have hids := ids_spec (recorded calls)
  rw [hrecords.map_id_values] at hids
  refine ⟨?_, fun id k i => ?_, fun _ _ _ => hrecords.get?_eq_some_iff, hrecords.occurrences_eq, hids⟩
  · rintro before index id after rfl
    exact (Records.recorded (List.pairwise_append.1 h).1).occurrences_eq id
  · rw [hrecords.get?_eq_some_iff, hrecords.find?_eq]

/-- A block for another identifier stands between two for one. -/
theorem recorded_invertible_between :
    [(1, "a"), (3, "b"), (4, "a")].Pairwise (·.1 < ·.1) ∧
      ((recorded [(1, "a"), (3, "b")]).register 4 "a").1 = 1 ∧
      (recorded [(1, "a"), (3, "b"), (4, "a")]).find? "a" 1 = some 4 ∧
      (recorded [(1, "a"), (3, "b"), (4, "a")]).occurrences "a" = 2 ∧
      "b" ∈ (recorded [(1, "a"), (3, "b"), (4, "a")]).ids := by
  have hrising : [(1, "a"), (3, "b"), (4, "a")].Pairwise (·.1 < ·.1) := by decide
  obtain ⟨hgiven, hfind, hget, hcount, hids, -⟩ := recorded_invertible hrising
  refine ⟨hrising, hgiven [(1, "a"), (3, "b")] 4 "a" [] rfl, ?_, hcount "a", (hids "b").2 (by decide)⟩
  exact (hfind "a" 1 4).2 ((hget "a" 1 4).2 rfl)

end Patchwork.Anchors
