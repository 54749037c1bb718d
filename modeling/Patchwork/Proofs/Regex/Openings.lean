import Patchwork.Proofs.Regex.Reading

namespace Patchwork

open Token

namespace Marked

def openings (k : Nat) : List Marked → List (Nat × List Char)
  | [] => []
  | m :: ms =>
    if (name? m).isSome then (k, chars (m :: ms)) :: openings (k + 1) ms else openings k ms

theorem openings_append_of_names {ms : List Marked} (h : names ms = []) (k : Nat) (ns : List Marked) :
    openings k (ms ++ ns) = openings k ns := by
  induction ms with
  | nil => rfl
  | cons m ms ih =>
      cases hm : name? m with
      | none =>
          rw [names, List.filterMap_cons_none hm] at h
          rw [List.cons_append, openings, hm, if_neg (by simp), ih h]
      | some name =>
          rw [names, List.filterMap_cons_some hm] at h
          cases h

theorem openings_opener (k : Nat) (name : Option String) (ms : List Marked) :
    openings k (opener name :: ms) = (k, chars (opener name :: ms)) :: openings (k + 1) ms := rfl

theorem mem_openings (k : Nat) (before : List Marked) (name : Option String) (after : List Marked) :
    (k + (names before).length, chars (opener name :: after)) ∈
      openings k (before ++ opener name :: after) := by
  induction before generalizing k with
  | nil => exact List.mem_cons_self
  | cons m before ih =>
      cases hm : name? m with
      | none =>
          rw [names, List.filterMap_cons_none hm, List.cons_append, openings, hm, if_neg (by simp)]
          exact ih k
      | some name' =>
          rw [names, List.filterMap_cons_some hm, List.cons_append, openings, hm,
            if_pos Option.isSome_some]
          have hnumber : k + (name' :: before.filterMap name?).length = k + 1 + (names before).length := by
            rw [List.length_cons, names]
            omega
          rw [hnumber]
          exact List.mem_cons_of_mem _ (ih (k + 1))

end Marked

namespace Regex.Builder

def openings : Nat → Builder → List Char → List (Nat × List Char)
  | 0, _, _ => []
  | fuel + 1, b, cs =>
    let cs := afterBlanks b.verbose cs
    match Item.read b.verbose cs with
    | none => []
    | some (item, rest) =>
      match b.push? item with
      | none => []
      | some next =>
        (if b.captures < next.captures then [(next.captures, cs)] else []) ++ openings fuel next rest

variable {b b' : Builder} {item : Item} {cs rest : List Char}

theorem Pushes.captures_capture {name : Option String} (h : b.Pushes (.opening (.capture name)) b') :
    b'.captures = b.captures + 1 := by
  cases h
  rfl

theorem Pushes.captures_other (h : b.Pushes item b') (hitem : ∀ name, item ≠ .opening (.capture name)) :
    b'.captures = b.captures := by
  cases h with
  | capture name names => exact absurd rfl (hitem name)
  | piece | operator | directive | modes | bar | closing => rfl

structure Bare (cs : List Char) : Prop where
  alike : ∀ s ∈ Marked.classes (marks cs), ClosesAlike s
  unnamed : ∀ x ∈ Marked.names (marks cs), x = none

theorem Bare.of_marks {ms : List Marked} (h : Bare cs) (hmarks : marks cs = ms ++ marks rest) :
    Bare rest := by
  refine ⟨alike_of_marks h.alike hmarks, fun x hx => h.unnamed x ?_⟩
  rw [hmarks, Marked.names_append]
  exact List.mem_append_right _ hx

/-- An item is an opener that stands for itself, or it passes. -/
theorem Bare.marks_item (h : Bare cs) (hread : Item.read false cs = some (item, rest))
    (hitem : item.Settled) (hnext : rest ≠ [] → (Item.read false rest).isSome) :
    (item = .opening (.capture none) ∧ cs = '(' :: rest ∧ marks cs = Marked.opener none :: marks rest) ∨
      Item.Passes item cs rest := by
  rcases Item.marks_item hread hitem.answered hnext h.alike with ⟨name, rfl, hmarks, hcs⟩ | hpasses
  · have hname : name = none := h.unnamed name (by rw [hmarks]; exact List.mem_cons_self)
    subst hname
    exact .inl ⟨rfl, hcs rfl, hmarks⟩
  · exact .inr hpasses

theorem openings_eq {fuel : Nat} (hbare : Bare cs) (hsteady : b.Steady) (h : run fuel b cs = some b')
    (hsettled : b'.Settled) : openings fuel b cs = Marked.openings (b.captures + 1) (marks cs) := by
  induction fuel generalizing b cs with
  | zero => cases h
  | succ fuel ih =>
      have hcases := run_cases h
      rw [hsteady.verbose, afterBlanks_false] at hcases
      simp only [openings, hsteady.verbose, afterBlanks_false]
      rcases hcases with ⟨rfl, rfl⟩ | ⟨item, rest, next, hread, hpush?, hrun⟩
      · simp [Item.read, Marked.openings]
      · have hpush := pushes_of_push? hpush?
        obtain ⟨-, hitem⟩ := hpush.settled (settled_of_run hrun hsettled)
        have hsteady' := hpush.steady hitem hsteady
        have hreads := reads_of_run hsteady' hrun hsettled
        simp only [hread, hpush?]
        rcases hbare.marks_item hread hitem hreads.isSome_read with
          ⟨rfl, -, hmarks⟩ | ⟨hother, ms, hmarks, -, hnames⟩
        · have hcaptures := hpush.captures_capture
          have hchars := chars_marks hbare.unnamed
          have hmarks' : marks cs = [Marked.opener none] ++ marks rest := hmarks
          rw [ih (hbare.of_marks hmarks') hsteady' hrun, if_pos (by omega), hmarks,
            Marked.openings_opener, hcaptures, ← hmarks, hchars]
          rfl
        · have hcaptures := hpush.captures_other hother
          rw [ih (hbare.of_marks hmarks) hsteady' hrun, if_neg (by omega), hmarks,
            Marked.openings_append_of_names hnames, hcaptures]
          rfl

theorem Reads.split (h : Reads b cs b' []) (hbare : Bare cs) {ms ns : List Marked} {name : Option String}
    (hmarks : marks cs = ms ++ Marked.opener name :: ns) :
    ∃ b₁ mid, Reads b cs b₁ mid ∧ Reads b₁ mid b' [] ∧ cs = Marked.chars ms ++ mid ∧
      marks mid = Marked.opener name :: ns ∧ b₁.captures = b.captures + (Marked.names ms).length := by
  generalize hend : ([] : List Char) = last at h
  induction h generalizing ms with
  | done b cs =>
      subst hend
      simp at hmarks
  | @item b b₂ b' cs rest last item hread hitem hpush h ih =>
      subst hend
      have hwhole : Reads b cs b' [] := .item hread hitem hpush h
      cases ms with
      | nil => exact ⟨b, cs, .done b cs, hwhole, rfl, hmarks, rfl⟩
      | cons m ms =>
          have hfound : ∀ xs ys : List Marked, marks cs = xs ++ marks rest →
              cs = Marked.chars xs ++ rest → m :: ms = xs ++ ys → marks rest = ys ++ Marked.opener name :: ns →
                b₂.captures = b.captures + (Marked.names xs).length →
                ∃ b₁ mid, Reads b cs b₁ mid ∧ Reads b₁ mid b' [] ∧ cs = Marked.chars (m :: ms) ++ mid ∧
                  marks mid = Marked.opener name :: ns ∧
                    b₁.captures = b.captures + (Marked.names (m :: ms)).length := by
            intro xs ys hxs hcs heq hrest hcaptures
            obtain ⟨b₁, mid, hto, hfrom, hmid, hns, hcount⟩ := ih (hbare.of_marks hxs) hrest rfl
            refine ⟨b₁, mid, .item hread hitem hpush hto, hfrom, ?_, hns, ?_⟩
            · rw [heq, Marked.chars_append, List.append_assoc, ← hmid]
              exact hcs
            · rw [hcount, hcaptures, heq, Marked.names_append, List.length_append, Nat.add_assoc]
          rcases hbare.marks_item hread hitem h.isSome_read with
            ⟨rfl, hcs, hitems⟩ | ⟨hother, xs, hitems, hcs, hnames⟩
          · rw [hitems] at hmarks
            obtain ⟨rfl, hrest⟩ := List.cons.inj hmarks
            exact hfound [Marked.opener none] ms hitems hcs rfl hrest hpush.captures_capture
          · have hcaptures : b₂.captures = b.captures + (Marked.names xs).length := by
              rw [hnames, hpush.captures_other hother]
              rfl
            rw [hitems] at hmarks
            rcases List.append_eq_append_iff.1 hmarks with ⟨ys, heq, hrest⟩ | ⟨ys, heq, hrest⟩
            · exact hfound xs ys hitems hcs heq hrest hcaptures
            · cases ys with
              | nil => exact hfound xs [] hitems hcs (by simpa using heq.symm) hrest.symm hcaptures
              | cons y ys =>
                  -- an opener within the item would have been passed
                  obtain ⟨rfl, -⟩ := List.cons.inj hrest
                  rw [heq, Marked.names_append, List.append_eq_nil_iff] at hnames
                  cases hnames.2

end Regex.Builder

end Patchwork
