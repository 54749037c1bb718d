import Patchwork.Draft
import Patchwork.Proofs.Token.Marks

namespace Patchwork

variable {α : Type}

namespace GroupMap

def lookup (entries : List (Nat × α)) (index : Nat) : Option α :=
  (entries.find? fun e => e.1 = index).map Prod.snd

@[simp]
theorem lookup_nil (index : Nat) : lookup ([] : List (Nat × α)) index = none := rfl

theorem lookup_cons (e : Nat × α) (entries : List (Nat × α)) (index : Nat) :
    lookup (e :: entries) index = if e.1 = index then some e.2 else lookup entries index := by
  by_cases h : e.1 = index <;> simp [lookup, h]

theorem lookup_insertEntry (index : Nat) (a : α) (entries : List (Nat × α)) (j : Nat) :
    lookup (insertEntry index a entries) j = if index = j then some a else lookup entries j := by
  induction entries with
  | nil => rw [insertEntry, lookup_cons]
  | cons head rest ih =>
      obtain ⟨k, b⟩ := head
      simp only [insertEntry]
      split
      · rw [lookup_cons]
      · split
        · next _ hk =>
            subst hk
            rw [lookup_cons, lookup_cons]
            split <;> rfl
        · next _ hk =>
            rw [lookup_cons, ih, lookup_cons]
            by_cases hj : index = j
            · subst hj
              rw [if_neg (Ne.symm hk), if_pos rfl, if_pos rfl]
            · rw [if_neg hj, if_neg hj]

theorem get?_insert (m : GroupMap α) (index : Nat) (a : α) (j : Nat) :
    (m.insert index a).get? j = if index = j then some a else m.get? j :=
  lookup_insertEntry index a m.toList j

theorem lookup_eq_none {entries : List (Nat × α)} {index : Nat}
    (h : ∀ e ∈ entries, e.1 ≠ index) : lookup entries index = none := by
  simpa [lookup] using h

theorem lookup_eq_some_iff {entries : List (Nat × α)} (hs : entries.Pairwise (·.1 < ·.1)) {index : Nat} {a : α} :
    lookup entries index = some a ↔ (index, a) ∈ entries := by
  induction entries with
  | nil => simp
  | cons e entries ih =>
      obtain ⟨he, hs⟩ := List.pairwise_cons.1 hs
      rw [lookup_cons, List.mem_cons, ← ih hs]
      by_cases hindex : e.1 = index
      · have hnone : lookup entries index = none :=
          lookup_eq_none fun e' he' => Nat.ne_of_gt (hindex ▸ he e' he')
        rw [if_pos hindex, hnone, Option.some.injEq]
        exact ⟨fun ha => .inl (Prod.ext hindex.symm ha.symm), fun h => by
          rcases h with rfl | h
          · rfl
          · cases h⟩
      · rw [if_neg hindex]
        exact ⟨.inr, fun h => h.resolve_left fun heq => hindex (congrArg Prod.fst heq).symm⟩

theorem get?_eq_some_iff {m : GroupMap α} {index : Nat} {a : α} :
    m.get? index = some a ↔ (index, a) ∈ m.toList := lookup_eq_some_iff m.sorted

theorem insertEntry_of_lt {index : Nat} {a : α} {entries : List (Nat × α)}
    (h : ∀ e ∈ entries, e.1 < index) : insertEntry index a entries = entries ++ [(index, a)] := by
  induction entries with
  | nil => rfl
  | cons head rest ih =>
      obtain ⟨hhead, hrest⟩ := List.forall_mem_cons.1 h
      rw [insertEntry, if_neg (Nat.not_lt_of_gt hhead), if_neg (Nat.ne_of_gt hhead), ih hrest]
      rfl

end GroupMap

namespace GroupNames

def Spells (names : GroupNames) (xs : List (Option String)) : Prop :=
  ∀ i, names.get? i = xs[i]?.join

variable {names block : GroupNames} {xs ys : List (Option String)}

theorem Spells.empty : Spells .empty [none] := by
  intro i
  cases i <;> rfl

theorem Spells.append_none (h : names.Spells xs) (ys : List (Option String))
    (hys : ∀ y ∈ ys, y = none) : names.Spells (xs ++ ys) := by
  intro i
  rw [h i, List.getElem?_append]
  split
  · rfl
  · next hi =>
      rw [List.getElem?_eq_none (Nat.le_of_not_lt hi)]
      cases hy : ys[i - xs.length]? with
      | none => rfl
      | some y => rw [hys y (List.mem_of_getElem? hy)]; rfl

theorem Spells.insert (h : names.Spells xs) (name : String) :
    GroupNames.Spells (names.insert xs.length name) (xs ++ [some name]) := by
  intro i
  rw [GroupMap.get?_insert, h i]
  by_cases hi : xs.length = i
  · subst hi
    simp
  · rw [if_neg hi, List.getElem?_append]
    split
    · rfl
    · next hlt =>
        rw [List.getElem?_eq_none (Nat.le_of_not_lt hlt), List.getElem?_eq_none]
        simp only [List.length_cons, List.length_nil]
        omega

theorem lookup_absorb (entries : List (Nat × String)) (hs : entries.Pairwise (·.1 < ·.1))
    (acc : GroupNames) (offset j : Nat) :
    GroupMap.get? (entries.foldl (fun acc e => GroupMap.insert acc (e.1 + offset) e.2) acc) j =
      if offset ≤ j then (GroupMap.lookup entries (j - offset)).or (acc.get? j) else acc.get? j := by
  induction entries generalizing acc with
  | nil => simp
  | cons e rest ih =>
      obtain ⟨he, hrest⟩ := List.pairwise_cons.1 hs
      rw [List.foldl_cons, ih hrest, GroupMap.get?_insert, GroupMap.lookup_cons]
      by_cases hj : offset ≤ j
      · rw [if_pos hj, if_pos hj]
        by_cases hej : e.1 = j - offset
        · rw [if_pos (by omega), if_pos hej, GroupMap.lookup_eq_none]
          · rfl
          · intro e' he'
            have := he e' he'
            omega
        · rw [if_neg (by omega), if_neg hej]
      · rw [if_neg hj, if_neg hj, if_neg (by omega)]

theorem get?_absorb (names block : GroupNames) (offset j : Nat) :
    (names.absorb block offset).get? j =
      if offset ≤ j then (block.get? (j - offset)).or (names.get? j) else names.get? j :=
  lookup_absorb block.toList block.sorted names offset j

theorem Spells.absorb (h : names.Spells xs) (hblock : block.Spells ys) :
    (names.absorb block xs.length).Spells (xs ++ ys) := by
  intro i
  rw [get?_absorb, h i, List.getElem?_append]
  by_cases hi : xs.length ≤ i
  · rw [if_pos hi, if_neg (Nat.not_lt_of_le hi), hblock, List.getElem?_eq_none hi]
    exact Option.or_none
  · rw [if_neg hi, if_pos (Nat.lt_of_not_le hi)]

/-- Two tables of one length, the second of which comes before the first. -/
theorem Spells.absorb_zero (h : names.Spells xs) (hblock : block.Spells ys)
    (hlen : xs.length = ys.length) :
    (names.absorb block 0).Spells (List.zipWith (fun x y => y.or x) xs ys) := by
  intro i
  rw [get?_absorb, if_pos (Nat.zero_le i), Nat.sub_zero, h i, hblock i, List.getElem?_zipWith]
  by_cases hi : i < xs.length
  · rw [List.getElem?_eq_getElem hi, List.getElem?_eq_getElem (hlen ▸ hi)]
    rfl
  · rw [List.getElem?_eq_none (Nat.le_of_not_lt hi), List.getElem?_eq_none (hlen ▸ Nat.le_of_not_lt hi)]
    rfl

end GroupNames

open Token Marked

theorem Token.isCapturing_eq (t : Token) :
    (if t.isCapturing then 1 else 0) = (names t.marked).length := by
  cases t <;> simp [isCapturing, marked]

theorem countCapturing_eq (text : String) :
    countCapturing text = (names (marks text.toList)).length := by
  simp only [countCapturing, lex, marks]
  induction lexList text.toList with
  | nil => rfl
  | cons t ts ih =>
      rw [List.countP_cons, ih, t.isCapturing_eq, List.flatMap_cons, names_append, List.length_append,
        Nat.add_comm]

namespace Numbered

structure Reads (r : Numbered) (ms : List Marked) : Prop where
  body : r.body.toList = chars ms
  names : r.names.Spells (none :: Marked.names ms)
  groupCount : r.groupCount = 1 + (Marked.names ms).length

theorem Reads.empty : Reads .empty [] := ⟨rfl, GroupNames.Spells.empty, rfl⟩

theorem Reads.push {r : Numbered} {ms : List Marked} (h : r.Reads ms) (t : Token) :
    (r.push t).Reads (ms ++ t.marked) := by
  have hlen : r.groupCount = (none :: Marked.names ms).length := by
    rw [h.groupCount, List.length_cons, Nat.add_comm]
  cases t with
  | groupOpen =>
      refine ⟨?_, ?_, ?_⟩
      · simp [Numbered.push, marked, h.body, opener]
      · rw [names_append]
        exact h.names.append_none [none] (by simp)
      · simp [Numbered.push, marked, h.groupCount, Nat.add_assoc]
  | namedOpen style name =>
      refine ⟨?_, ?_, ?_⟩
      · simp [Numbered.push, marked, h.body, opener]
      · rw [names_append]
        simp only [Numbered.push, hlen]
        exact h.names.insert name
      · simp [Numbered.push, marked, h.groupCount, Nat.add_assoc]
  | text s | escape s | charClass s | specialOpen | reference id | call id args =>
      refine ⟨?_, ?_, ?_⟩
      · simp [Numbered.push, marked, h.body, Token.chars, render]
      · simpa [Numbered.push, marked] using h.names
      · simpa [Numbered.push, marked] using h.groupCount

theorem Reads.foldl_push {r : Numbered} {ms : List Marked} (h : r.Reads ms) (ts : List Token) :
    (ts.foldl Numbered.push r).Reads (ms ++ ts.flatMap marked) := by
  induction ts generalizing r ms with
  | nil => simpa using h
  | cons t ts ih =>
      rw [List.foldl_cons, List.flatMap_cons, ← List.append_assoc]
      exact ih (h.push t)

end Numbered

theorem renumber_reads (text : String) : (renumber text).Reads (marks text.toList) :=
  Numbered.Reads.empty.foldl_push (lex text)

end Patchwork
