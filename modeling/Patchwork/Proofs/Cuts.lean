import Patchwork.Proofs.Renumbering

namespace Patchwork

namespace Token

open Text

def EndsToken (source : String) (p : Nat) : Prop :=
  ∃ before t after, lex source = before ++ t :: after ∧ p = (placeAfter before t).stop

theorem EndsToken.exists_renders {source : String} {p : Nat} (h : EndsToken source p) :
    ∃ before after, lex source = before ++ after ∧ p = byteLength (renders before) := by
  obtain ⟨before, t, after, hlex, rfl⟩ := h
  refine ⟨before ++ [t], after, by rw [hlex, List.append_assoc, List.singleton_append], ?_⟩
  rw [renders_append, byteLength_append, renders_cons, renders_nil, List.append_nil, placeAfter]

variable {source : String} {before after : List Token}

theorem slice_renders (h : lex source = before ++ after) :
    (covers source ⟨0, byteLength (renders before)⟩ ∧
        slice source ⟨0, byteLength (renders before)⟩ = String.ofList (renders before)) ∧
      covers source ⟨byteLength (renders before), byteLength source.toList⟩ ∧
        slice source ⟨byteLength (renders before), byteLength source.toList⟩ =
          String.ofList (renders after) := by
  have hsource : source.toList = renders before ++ renders after := by
    rw [← renders_lex source, h, renders_append]
  have hcut := isBoundary_append (renders before) (renders after)
  have hend := isBoundary_append source.toList []
  have htake := takeBytes_append (renders after) []
  rw [List.append_nil] at hend htake
  rw [← hsource] at hcut
  have hle : byteLength (renders before) ≤ byteLength source.toList := by
    rw [hsource, byteLength_append]
    exact Nat.le_add_right _ _
  refine ⟨⟨?_, ?_⟩, ?_, ?_⟩
  · simp [covers, hcut, isBoundary]
  · rw [slice, Span.length, hsource, Nat.sub_zero, dropBytes, takeBytes_append]
  · simp [covers, hcut, hend, hle]
  · rw [slice, Span.length, hsource, dropBytes_append, byteLength_append, Nat.add_sub_cancel_left, htake]

end Token

namespace Numbered

def assigns (r : Numbered) : List Token → List (Token × Nat)
  | [] => []
  | t :: ts => if t.isCapturing then (t, r.groupCount) :: (r.push t).assigns ts else (r.push t).assigns ts

theorem groupCount_push (r : Numbered) (t : Token) :
    (r.push t).groupCount = r.groupCount + if t.isCapturing then 1 else 0 := by
  cases t <;> rfl

theorem assigns_eq (r : Numbered) (ts : List Token) :
    r.assigns ts = (ts.filter Token.isCapturing).zipIdx r.groupCount := by
  induction ts generalizing r with
  | nil => rfl
  | cons t ts ih =>
      rw [assigns, ih, groupCount_push, List.filter_cons]
      split <;> rfl

end Numbered

open Token

/-- The groups of a text, each with the number that `renumber` gives it. -/
def assigned (text : String) : List (Token × Nat) := Numbered.empty.assigns (lex text)

theorem assigned_eq (text : String) : assigned text = ((lex text).filter isCapturing).zipIdx 1 :=
  Numbered.assigns_eq .empty (lex text)

theorem exists_getLast?_assigned {text : String} (h : 0 < countCapturing text) :
    ∃ t, (assigned text).getLast? = some (t, countCapturing text) := by
  have hcount : ((lex text).filter isCapturing).length = countCapturing text :=
    List.countP_eq_length_filter.symm
  have hne : (lex text).filter isCapturing ≠ [] := List.ne_nil_of_length_pos (hcount ▸ h)
  refine ⟨((lex text).filter isCapturing).getLast hne, ?_⟩
  rw [assigned_eq, List.getLast?_zipIdx, List.getLast?_eq_some_getLast hne, hcount, Option.map_some,
    Nat.add_sub_cancel_left]

theorem get?_names_of_mem_assigned {text : String} {t : Token} {n : Nat} (h : (t, n) ∈ assigned text) :
    (renumber text).names.get? n = t.givenName? := by
  rw [assigned_eq, List.mk_mem_zipIdx_iff_le_and_getElem?_sub] at h
  obtain ⟨hpos, ht⟩ := h
  obtain ⟨k, rfl⟩ := Nat.exists_eq_add_of_le' hpos
  rw [(renumber_reads text).names, List.getElem?_cons_succ, names_marks, List.getElem?_map]
  rw [Nat.add_sub_cancel] at ht
  rw [← lex, ht]
  rfl

open Text

/-- A text may be cut where a token ends. Its tokens are those of the part before and those of the part behind,
so the groups of both are counted together. The part before opens the first groups of the text, by the same
numbers, and the number of the last is found by counting in the part alone. -/
theorem lex_cut {source : String} {p : Nat} (h : EndsToken source p) :
    let front := slice source ⟨0, p⟩
    let back := slice source ⟨p, byteLength source.toList⟩
    covers source ⟨0, p⟩ ∧ covers source ⟨p, byteLength source.toList⟩ ∧
      lex source = lex front ++ lex back ∧
      countCapturing source = countCapturing front + countCapturing back ∧
      assigned front <+: assigned source ∧
      (0 < countCapturing front → ∃ t, (assigned front).getLast? = some (t, countCapturing front) ∧
        (renumber source).names.get? (countCapturing front) = t.givenName?) := by
  intro front back
  obtain ⟨before, after, hlex, rfl⟩ := h.exists_renders
  obtain ⟨⟨hcovers, hfront⟩, hcovers', hback⟩ := slice_renders hlex
  have hsplit : lex source = lex front ++ lex back := by
    have hbefore : lex front = before := by
      rw [lex, show front = _ from hfront, String.toList_ofList, lexList_renders_left hlex]
    have hafter : lex back = after := by
      rw [lex, show back = _ from hback, String.toList_ofList, lexList_renders_of_append hlex]
    rw [hbefore, hafter, hlex]
  have hassigned : assigned front <+: assigned source := by
    rw [assigned_eq, assigned_eq, hsplit, List.filter_append, List.zipIdx_append]
    exact List.prefix_append _ _
  refine ⟨hcovers, hcovers', hsplit, ?_, hassigned, fun hpos => ?_⟩
  · rw [countCapturing, hsplit, List.countP_append, countCapturing, countCapturing]
  · obtain ⟨t, ht⟩ := exists_getLast?_assigned hpos
    exact ⟨t, ht, get?_names_of_mem_assigned (hassigned.subset (List.mem_of_getLast? ht))⟩

/-- The arguments of a call would go on to the parenthesis behind the cut; there is no call with it, and none
without it. -/
theorem lex_cut_call :
    EndsToken "é${a(b}(?<n>)" 13 ∧ lex "é${a(b}(?<n>)" = lex "é${a(b}(?<n>" ++ lex ")" ∧
      countCapturing "é${a(b}(?<n>)" = countCapturing "é${a(b}(?<n>" + countCapturing ")" ∧
      (renumber "é${a(b}(?<n>)").names.get? (countCapturing "é${a(b}(?<n>") = some "n" := by
  have hends : EndsToken "é${a(b}(?<n>)" 13 :=
    ⟨(lex "é${a(b}(?<n>)").take 5, namedOpen .plain "n", [text ")"], by decide +kernel⟩
  have hfront : slice "é${a(b}(?<n>)" ⟨0, 13⟩ = "é${a(b}(?<n>" := by decide +kernel
  have hback : slice "é${a(b}(?<n>)" ⟨13, byteLength "é${a(b}(?<n>)".toList⟩ = ")" := by decide +kernel
  obtain ⟨-, -, hsplit, hcount, -, hlast⟩ := lex_cut hends
  rw [hfront] at hsplit hcount hlast
  rw [hback] at hsplit hcount
  obtain ⟨t, ht, hname⟩ := hlast (by decide +kernel)
  refine ⟨hends, hsplit, hcount, hname.trans ?_⟩
  have hopener : (assigned "é${a(b}(?<n>").getLast? = some (namedOpen .plain "n", 2) := by decide +kernel
  rw [hopener] at ht
  rw [← (Prod.mk.inj (Option.some.inj ht)).1]
  rfl

end Patchwork
