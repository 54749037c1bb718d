import Mathlib.Algebra.GroupWithZero.Nat
import Patchwork.Proofs.Numbering
import Patchwork.Proofs.Run
import Patchwork.Proofs.Token.Pieces

namespace Patchwork

open Token Marked

theorem forall_mem_intercalate {α : Type} {p : α → Prop} {separator : List α} {xss : List (List α)}
    (hseparator : ∀ x ∈ separator, p x) (h : ∀ xs ∈ xss, ∀ x ∈ xs, p x) :
    ∀ x ∈ separator.intercalate xss, p x := by
  induction xss with
  | nil => simp
  | cons xs xss ih =>
      obtain ⟨hxs, hxss⟩ := List.forall_mem_cons.1 h
      cases xss with
      | nil => simpa using hxs
      | cons ys xss =>
          intro x hx
          rw [List.intercalate_cons_cons, List.mem_append, List.mem_append] at hx
          rcases hx with (hx | hx) | hx
          · exact hxs x hx
          · exact hseparator x hx
          · exact ih hxss x hx

theorem length_intercalate (separator xs : List Char) (xss : List (List Char)) :
    (separator.intercalate (xs :: xss)).length + separator.length =
      ((xs :: xss).map fun ys => ys.length + separator.length).sum := by
  induction xss generalizing xs with
  | nil => simp
  | cons ys xss ih =>
      rw [List.intercalate_cons_cons, List.map_cons, List.sum_cons, ← ih ys, List.length_append,
        List.length_append, Nat.add_assoc]

namespace NumberRange

theorem ordinary_padded {width n : Nat} : Ordinary (padded width n).toList := by
  intro c hc
  simp only [padded, String.toList_ofList, List.mem_append, List.mem_replicate] at hc
  rcases hc with ⟨-, rfl⟩ | hc
  · decide
  · change c ∈ (Nat.repr n).toList at hc
    rw [Nat.toList_repr] at hc
    exact isStructural_of_isDigit (Nat.isDigit_of_mem_toDigits (by decide) (by decide) hc)

theorem exists_of_execute {args : List String} {text : String} (h : execute args = .ok text) :
    ∃ first last width, text = alternation first last width := by
  unfold execute at h
  split at h
  · obtain ⟨first, -, h⟩ := bind_eq_ok_iff.1 h
    obtain ⟨last, -, h⟩ := bind_eq_ok_iff.1 h
    obtain ⟨width, -, h⟩ := bind_eq_ok_iff.1 h
    refine ⟨first, last, width, ?_⟩
    split at h
    · cases h
    · split at h <;> cases h
      rfl
  · cases h

theorem toList_alternation (first last width : Nat) :
    (alternation first last width).toList = '(' :: '?' :: ':' :: (List.intercalate ['|']
      ((List.range' first (last + 1 - first)).map fun n => (padded width n).toList) ++ [')']) := by
  simp [alternation, String.toList_intercalate, Function.comp_def]

theorem sealed_of_execute {args : List String} {text : String} (h : execute args = .ok text) :
    IsSealed text.toList ∧ names (marks text.toList) = [] := by
  obtain ⟨first, last, width, rfl⟩ := exists_of_execute h
  rw [toList_alternation]
  refine (isSealed_special (by decide) fun c hc => ?_).imp_right fun h => by rw [h, names_plain]
  simp only [List.mem_cons, List.mem_append, List.not_mem_nil, or_false] at hc
  rcases hc with rfl | hc | rfl
  · decide
  · refine forall_mem_intercalate (p := fun c => isStructural c = false) (by simp [isStructural]) ?_ c hc
    intro cs hcs
    obtain ⟨n, -, rfl⟩ := List.mem_map.1 hcs
    exact ordinary_padded
  · decide

end NumberRange

namespace CompiledExpression

def table (c : CompiledExpression) : List (Option String) := (List.range c.groupCount).map c.names.get?

/-- The body can be put in parentheses and gives no names, and the form's tables are tables of its
groups. -/
structure Sound (c : CompiledExpression) : Prop where
  tight : IsTight c.body.toList
  unnamed : ∀ x ∈ Marked.names (marks c.body.toList), x = none
  groupCount : c.groupCount = 1 + (Marked.names (marks c.body.toList)).length
  table : c.names.Spells c.table
  whole : c.names.get? 0 = none

theorem length_table (c : CompiledExpression) : c.table.length = c.groupCount := by simp [table]

end CompiledExpression

namespace Draft

open CompiledExpression

def blockTable : List CompiledExpression → List (Option String)
  | [c] => c.table
  | cs => none :: cs.flatMap table

def blockSize : List CompiledExpression → Nat
  | [c] => c.groupCount
  | cs => 1 + (cs.map groupCount).sum

def alternatives : List CompiledExpression → List Char
  | [] => []
  | [c] => group c.body.toList
  | c :: cs => group c.body.toList ++ '|' :: alternatives cs

theorem length_blockTable (vs : List CompiledExpression) : (blockTable vs).length = blockSize vs := by
  unfold blockTable blockSize
  split
  · exact length_table _
  · simp [Nat.add_comm, List.length_flatMap, length_table]

theorem alternatives_cons_cons (c d : CompiledExpression) (ds : List CompiledExpression) :
    alternatives (c :: d :: ds) = group c.body.toList ++ ['|'] ++ alternatives (d :: ds) := by
  simp [alternatives]

theorem alternatives_cons (c : CompiledExpression) (cs : List CompiledExpression) :
    alternatives (c :: cs) = '(' ::
      ([')', '|', '('].intercalate ((c :: cs).map fun c => c.body.toList) ++ [')']) := by
  induction cs generalizing c with
  | nil => simp [alternatives, group]
  | cons d ds ih =>
      rw [alternatives_cons_cons, ih, List.map_cons, List.map_cons, List.map_cons,
        List.intercalate_cons_cons, group]
      simp

theorem toList_blockText_single (c : CompiledExpression) :
    (blockText [c]).toList = group c.body.toList := by
  simp [blockText, group]

theorem toList_blockText_several {vs : List CompiledExpression} (h : vs ≠ []) (hlen : vs.length ≠ 1) :
    (blockText vs).toList = group (alternatives vs) := by
  match vs with
  | [c] => exact absurd rfl hlen
  | c :: d :: ds =>
      rw [alternatives_cons]
      simp [blockText, group, String.toList_intercalate, Function.comp_def]

variable {vs : List CompiledExpression}

theorem blockSize_several (hlen : vs.length ≠ 1) : blockSize vs = 1 + (vs.map (·.groupCount)).sum := by
  match vs with
  | [] | _ :: _ :: _ => rfl
  | [c] => exact absurd rfl hlen

theorem blockTable_several (hlen : vs.length ≠ 1) : blockTable vs = none :: vs.flatMap table := by
  match vs with
  | [] | _ :: _ :: _ => rfl
  | [c] => exact absurd rfl hlen

theorem alternatives_reads (hvs : ∀ v ∈ vs, v.Sound) (h : vs ≠ []) :
    IsSealed (alternatives vs) ∧
      Marked.names (marks (alternatives vs)) = List.replicate (vs.map (·.groupCount)).sum none := by
  induction vs with
  | nil => exact absurd rfl h
  | cons c cs ih =>
      obtain ⟨hc, hcs⟩ := List.forall_mem_cons.1 hvs
      have hgroup : Marked.names (marks (group c.body.toList)) = List.replicate c.groupCount none := by
        rw [hc.tight.marks_group, hc.groupCount, Nat.add_comm, List.replicate_succ]
        have hnone := List.eq_replicate_iff.2 ⟨rfl, hc.unnamed⟩
        rw [List.cons_append, names_cons_opener, names_append, ← hnone]
        exact congrArg _ (List.append_nil _)
      cases cs with
      | nil =>
          rw [alternatives, hgroup]
          exact ⟨hc.tight.sealed, by simp⟩
      | cons d ds =>
          obtain ⟨hsealed, hnames⟩ := ih hcs (by simp)
          have hbar := isClosed_of_ordinary (show Ordinary ['|'] by decide)
          have hfirst := hc.tight.sealed.append hbar.1
          rw [alternatives_cons_cons]
          refine ⟨hfirst.append hsealed.closed, ?_⟩
          rw [hfirst.closed, hc.tight.sealed.closed, hbar.2, names_append, names_append, hgroup, hnames,
            names_plain, List.append_nil, List.replicate_append_replicate]
          rfl

theorem blockText_reads (hvs : ∀ v ∈ vs, v.Sound) (h : vs ≠ []) :
    IsSealed (blockText vs).toList ∧
      Marked.names (marks (blockText vs).toList) = List.replicate (blockSize vs) none := by
  by_cases hlen : vs.length = 1
  · obtain ⟨c, rfl⟩ := List.length_eq_one_iff.1 hlen
    obtain ⟨hsealed, hnames⟩ := alternatives_reads hvs h
    rw [alternatives] at hsealed hnames
    rw [toList_blockText_single]
    exact ⟨hsealed, by simpa [blockSize] using hnames⟩
  · obtain ⟨hsealed, hnames⟩ := alternatives_reads hvs h
    rw [toList_blockText_several h hlen, hsealed.tight.marks_group, blockSize_several hlen]
    refine ⟨hsealed.tight.sealed, ?_⟩
    rw [List.cons_append, names_cons_opener, names_append, hnames, Nat.add_comm, List.replicate_succ]
    exact congrArg _ (List.append_nil _)

theorem exists_alternatives_eq (before after : List CompiledExpression) (v : CompiledExpression)
    (hvs : ∀ u ∈ before, u.Sound) :
    ∃ front back, alternatives (before ++ v :: after) = front ++ group v.body.toList ++ back ∧
      IsClosed front ∧ front.head? ≠ some '?' ∧
      (Marked.names (marks front)).length = (before.map (·.groupCount)).sum := by
  induction before with
  | nil =>
      have hnil : IsClosed [] := fun next => by simp
      cases after with
      | nil => exact ⟨[], [], by simp [alternatives], hnil, by simp, by simp⟩
      | cons d ds =>
          exact ⟨[], '|' :: alternatives (d :: ds), by simp [alternatives], hnil, by simp, by simp⟩
  | cons c cs ih =>
      obtain ⟨hc, hcs⟩ := List.forall_mem_cons.1 hvs
      obtain ⟨front, back, heq, hclosed, -, hcount⟩ := ih hcs
      have hbar := isClosed_of_ordinary (show Ordinary ['|'] by decide)
      have hfirst := hc.tight.sealed.append hbar.1
      have hone := (alternatives_reads (show ∀ v ∈ [c], v.Sound by simpa using hc) (by simp)).2
      rw [alternatives] at hone
      refine ⟨group c.body.toList ++ ['|'] ++ front, back, ?_, hfirst.closed.append hclosed, ?_, ?_⟩
      · cases hrest : cs ++ v :: after with
        | nil => simp at hrest
        | cons d ds =>
            rw [List.cons_append, hrest, alternatives_cons_cons, ← hrest, heq]
            simp
      · simp [group]
      · rw [hfirst.closed, hc.tight.sealed.closed, hbar.2, names_append, names_append, hone, names_plain]
        simp [hcount]

theorem getElem?_table {c : CompiledExpression} {k : Nat} (hk : k < c.groupCount) :
    c.table[k]?.join = c.names.get? k := by
  simp [table, hk]

theorem getElem?_blockTable {before after : List CompiledExpression} {v : CompiledExpression}
    (hlen : (before ++ v :: after).length ≠ 1) {k : Nat} (hk : k < v.groupCount) :
    (blockTable (before ++ v :: after))[1 + (before.map (·.groupCount)).sum + k]?.join =
      v.names.get? k := by
  have hbefore : (before.flatMap table).length = (before.map (·.groupCount)).sum := by
    simp [List.length_flatMap, length_table]
  have hindex : 1 + (before.map (·.groupCount)).sum + k = (before.flatMap table).length + k + 1 := by
    omega
  rw [blockTable_several hlen, hindex, List.getElem?_cons_succ, List.flatMap_append,
    List.getElem?_append_right (Nat.le_add_right _ _), Nat.add_sub_cancel_left, List.flatMap_cons,
    List.getElem?_append_left (by rw [length_table]; exact hk), getElem?_table hk]

end Draft

end Patchwork
