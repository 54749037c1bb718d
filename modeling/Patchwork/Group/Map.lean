namespace Patchwork

variable {α : Type}

/-- Puts a value into an ordered list of entries; an entry of the same number gives way. -/
def insertEntry (index : Nat) (a : α) : List (Nat × α) → List (Nat × α)
  | [] => [(index, a)]
  | (j, b) :: rest =>
    if index < j then (index, a) :: (j, b) :: rest
    else if index = j then (index, a) :: rest
    else (j, b) :: insertEntry index a rest

theorem mem_insertEntry {index : Nat} {a : α} {entries : List (Nat × α)} {e : Nat × α}
    (h : e ∈ insertEntry index a entries) : e = (index, a) ∨ e ∈ entries := by
  induction entries with
  | nil => simpa [insertEntry] using h
  | cons head rest ih =>
      obtain ⟨j, b⟩ := head
      simp only [insertEntry] at h
      split at h
      · simpa using h
      · split at h <;> simp only [List.mem_cons] at h ⊢
        · exact h.imp_right .inr
        · rcases h with h | h
          · exact .inr (.inl h)
          · exact (ih h).imp_right .inr

theorem insertEntry_sorted (index : Nat) (a : α) {entries : List (Nat × α)}
    (h : entries.Pairwise (·.1 < ·.1)) : (insertEntry index a entries).Pairwise (·.1 < ·.1) := by
  induction entries with
  | nil => simp [insertEntry]
  | cons head rest ih =>
      obtain ⟨j, b⟩ := head
      obtain ⟨hj, hr⟩ := List.pairwise_cons.1 h
      simp only [insertEntry]
      split
      · next hlt =>
          refine List.pairwise_cons.2 ⟨fun e he => ?_, h⟩
          rcases List.mem_cons.1 he with rfl | he
          · exact hlt
          · exact Nat.lt_trans hlt (hj e he)
      · split
        · next _ heq => exact List.pairwise_cons.2 ⟨fun e he => heq ▸ hj e he, hr⟩
        · next hge hne =>
            refine List.pairwise_cons.2 ⟨fun e he => ?_, ih hr⟩
            rcases mem_insertEntry he with rfl | he
            · exact Nat.lt_of_le_of_ne (Nat.le_of_not_lt hge) (Ne.symm hne)
            · exact hj e he

/-- Values at group numbers, in ascending order. -/
structure GroupMap (α : Type) where
  toList : List (Nat × α)
  sorted : toList.Pairwise (·.1 < ·.1) := by simp

namespace GroupMap

instance [DecidableEq α] : DecidableEq (GroupMap α) := fun a b =>
  if h : a.toList = b.toList then
    isTrue (by cases a; cases b; cases h; rfl)
  else isFalse fun e => h (e ▸ rfl)

def empty : GroupMap α where
  toList := []

instance : Inhabited (GroupMap α) := ⟨empty⟩

def insert (m : GroupMap α) (index : Nat) (a : α) : GroupMap α where
  toList := insertEntry index a m.toList
  sorted := insertEntry_sorted index a m.sorted

def get? (m : GroupMap α) (index : Nat) : Option α :=
  (m.toList.find? fun e => e.1 = index).map Prod.snd

def values (m : GroupMap α) : List α := m.toList.map Prod.snd

def size (m : GroupMap α) : Nat := m.toList.length

def isEmpty (m : GroupMap α) : Bool := m.toList.isEmpty

@[simp]
theorem toList_empty : (empty : GroupMap α).toList = [] := rfl

@[simp]
theorem toList_insert (m : GroupMap α) (index : Nat) (a : α) :
    (m.insert index a).toList = insertEntry index a m.toList := rfl

end GroupMap

end Patchwork
