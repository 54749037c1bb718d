import Mathlib.Data.Nat.Find
import Patchwork.Proofs.Engine
import Patchwork.Proofs.Layout

namespace Patchwork

open Token Marked

namespace Match

open CompiledExpression

variable {m s : Match} {v : CompiledExpression} {vs : List CompiledExpression} {a i : Nat}

theorem participated_iff : m.participated i ↔ ∃ span, m.spanAt? i = some span :=
  Option.isSome_iff_exists

theorem not_participated_iff : m.participated i = false ↔ m.spanAt? i = none := by
  simp [participated]

theorem lt_of_participated (h : m.participated i) : i < m.spans.length := by
  by_contra hge
  rw [participated, spanAt?, List.getElem?_eq_none (Nat.le_of_not_lt hge)] at h
  cases h

theorem range_eq (m : Match) : m.range = (m.spanAt? 0).getD default := by
  cases hspans : m.spans <;> simp [range, span?, index?, spanAt?, hspans]

theorem spanAt?_matchOf (c : CompiledExpression) (text : String) (spans : List (Option Span)) (i : Nat) :
    (c.matchOf text spans).spanAt? i = if i < c.groupCount then spans[i]?.join else none := by
  by_cases hi : i < c.groupCount <;> simp [spanAt?, matchOf, hi]

theorem window?_eq_some (h : m.window? v a = some s) :
    a + v.groupCount ≤ m.spans.length ∧ s.expression = v ∧ s.spans.length = v.groupCount ∧
      ∀ i < v.groupCount, s.spanAt? i = m.spanAt? (a + i) := by
  unfold window? at h
  split at h
  · next hle =>
      obtain rfl := Option.some.inj h
      refine ⟨hle, rfl, ?_, fun i hi => ?_⟩
      · simp
        omega
      · simp [spanAt?, hi]
  · cases h

theorem pickVariant?_eq_some {found : Nat} (h : m.pickVariant? a vs = some (v, found)) :
    ∃ i, vs[i]? = some v ∧ found = a + ((vs.take i).map (·.groupCount)).sum ∧ m.participated found ∧
      ∀ j < i, m.spanAt? (a + ((vs.take j).map (·.groupCount)).sum) = none := by
  induction vs generalizing a with
  | nil => cases h
  | cons c cs ih =>
      unfold pickVariant? at h
      split at h
      · next htook =>
          obtain ⟨rfl, rfl⟩ := Prod.mk.inj (Option.some.inj h)
          exact ⟨0, rfl, rfl, htook, by simp⟩
      · next hno =>
          obtain ⟨i, hv, hfound, htook, hbefore⟩ := ih h
          refine ⟨i + 1, hv, ?_, htook, fun j hj => ?_⟩
          · rw [hfound, List.take_succ_cons, List.map_cons, List.sum_cons, Nat.add_assoc]
          · cases j with
            | zero => exact not_participated_iff.1 (Bool.eq_false_iff.2 hno)
            | succ j =>
                rw [List.take_succ_cons, List.map_cons, List.sum_cons, ← Nat.add_assoc]
                exact hbefore j (Nat.lt_of_succ_lt_succ hj)

def variantSpan? (m : Match) (a : Nat) (vs : List CompiledExpression) (i : Nat) : Option Span :=
  m.spanAt? (slot a vs i)

theorem block?_several (hlen : vs.length ≠ 1) :
    m.block? a vs = (m.pickVariant? (a + 1) vs).bind fun pick => m.window? pick.1 pick.2 := by
  match vs with
  | [] | _ :: _ :: _ => rfl
  | [v] => exact absurd rfl hlen

theorem block?_eq_some (h : m.block? a vs = some s) (ha : m.participated a) :
    ∃ i, vs[i]? = some s.expression ∧ m.window? s.expression (slot a vs i) = some s ∧
      m.participated (slot a vs i) ∧ ∀ j < i, m.variantSpan? a vs j = none := by
  by_cases hlen : vs.length = 1
  · obtain ⟨v, rfl⟩ := List.length_eq_one_iff.1 hlen
    have hv := expression_of_window? (c := v) h
    exact ⟨0, congrArg some hv.symm, hv.symm ▸ h, ha, by simp⟩
  · rw [block?_several hlen] at h
    obtain ⟨⟨v, found⟩, hpick, hwindow⟩ := Option.bind_eq_some_iff.1 h
    obtain ⟨i, hv, hfound, htook, hbefore⟩ := pickVariant?_eq_some hpick
    rw [← slot_several hlen] at hfound
    subst hfound
    have hexpression : s.expression = v := expression_of_window? hwindow
    refine ⟨i, hexpression ▸ hv, hexpression ▸ hwindow, htook, fun j hj => ?_⟩
    rw [variantSpan?, slot_several hlen]
    exact hbefore j hj

theorem subMatch?_eq_some {id : String} {k : Nat} (h : m.subMatch? id k = some s) :
    ∃ a vs, m.expression.anchors.find? id k = some a ∧ m.expression.variants? id = some vs ∧
      m.participated a ∧ m.block? a vs = some s := by
  unfold subMatch? at h
  split at h
  · next a vs ha hvs =>
      split at h
      · next htook => exact ⟨a, vs, ha, hvs, htook, h⟩
      · cases h
  · cases h

structure Within (root : Match) (start : Nat) (m : Match) : Prop where
  length : m.spans.length = m.expression.groupCount
  spanAt : ∀ i < m.expression.groupCount, m.spanAt? i = root.spanAt? (start + i)

theorem Within.window {root : Match} {start : Nat} (h : Within root start m)
    (hwindow : m.window? v a = some s) : Within root (start + a) s := by
  obtain ⟨hle, rfl, hlength, hspans⟩ := window?_eq_some hwindow
  refine ⟨hlength, fun i hi => ?_⟩
  rw [hspans i hi, h.spanAt (a + i) (by rw [← h.length]; omega), Nat.add_assoc]

/-- Matches of a form in a text, and the sub-matches that they are taken apart into. -/
inductive Arises (c : CompiledExpression) (text : String) : Match → Prop where
  | find {m : Match} (h : c.find? text = some m) : Arises c text m
  | findAt {m : Match} {position : Nat} (h : c.findAt? text position = some m) : Arises c text m
  | lookingAt {m : Match} (h : c.lookingAt? text = some m) : Arises c text m
  | all {m : Match} (h : m ∈ c.findAll text) : Arises c text m
  | sub {m s : Match} {id : String} {k : Nat} (h : Arises c text m) (hs : m.subMatch? id k = some s) :
      Arises c text s

end Match

namespace CompiledExpression

variable {kind : Kind} {c u v : CompiledExpression} {vs : List CompiledExpression} {start a i : Nat}

theorem slot_add (a b : Nat) (vs : List CompiledExpression) (i : Nat) : slot (a + b) vs i = a + slot b vs i := by
  by_cases hlen : vs.length = 1
  · obtain ⟨v, rfl⟩ := List.length_eq_one_iff.1 hlen
    rfl
  · rw [slot_several hlen, slot_several hlen]
    omega

def Places (c : CompiledExpression) (start : Nat) (v : CompiledExpression) : Prop :=
  ∃ front back, marks c.body.toList = front ++ marks v.body.toList ++ back ∧
    (Marked.names front).length = start

theorem places_self (c : CompiledExpression) : c.Places 0 c := ⟨[], [], by simp, rfl⟩

def Holds (c : CompiledExpression) (start : Nat) (v : CompiledExpression) : Prop :=
  ∃ front back, marks c.body.toList = front ++ enclosed (marks v.body.toList) ++ back ∧
    start = 1 + (Marked.names front).length

theorem Holds.places (h : c.Holds start v) : c.Places start v := by
  obtain ⟨front, back, hmarks, rfl⟩ := h
  refine ⟨front ++ [opener none], (')', none) :: back, ?_, ?_⟩
  · simp [hmarks, enclosed]
  · rw [names_append, List.length_append, Nat.add_comm]
    rfl

theorem Places.lt (h : c.Places start v) (hc : c.Sound) : start < c.groupCount := by
  obtain ⟨front, back, hmarks, rfl⟩ := h
  rw [hc.groupCount, hmarks, names_append, names_append, List.length_append, List.length_append]
  omega

def BlockAt (c : CompiledExpression) (a : Nat) (vs : List CompiledExpression) : Prop :=
  ∃ front back, marks c.body.toList = front ++ block (vs.map fun v => marks v.body.toList) ++ back ∧
    a = 1 + (Marked.names front).length

/-- An anchor is that of a reference in the source, behind the groups of all that stands ahead of it. -/
theorem WovenFrom.exists_reference {p : Supply} (h : c.WovenFrom kind p) {id : String} {k : Nat}
    (ha : c.anchors.find? id k = some a) :
    ∃ before after, lex c.source = before ++ .reference id :: after ∧ a = 1 + p.size before := by
  obtain ⟨e, he, rfl⟩ := Option.map_eq_some_iff.1 ha
  have hanchor : e.2 = ⟨id, k⟩ := by simpa using List.find?_some he
  have hmem := List.mem_of_find?_eq_some he
  rw [h.lays.anchors] at hmem
  obtain ⟨before, after, hsplit, hindex, -⟩ := Supply.mem_anchorsFrom hmem
  rw [hanchor] at hsplit
  exact ⟨before, after, hsplit, hindex⟩

theorem Woven.blockAt (h : c.Woven kind) (horderly : kind.Orderly) {id : String} {k : Nat}
    (ha : c.anchors.find? id k = some a) (hvs : c.variants? id = some vs) :
    c.BlockAt a vs ∧ vs ≠ [] := by
  obtain ⟨p, hfrom⟩ := h.exists_from horderly
  obtain ⟨before, after, hsplit, rfl⟩ := hfrom.exists_reference ha
  have hid : Token.reference id ∈ lex c.source := by simp [hsplit]
  have hvariants : p.variants id = vs := by
    rw [hfrom.lays.variants, if_pos hid] at hvs
    exact Option.some.inj hvs
  have hfits := hfrom.fits
  rw [hsplit] at hfits
  refine ⟨⟨before.flatMap p.bareMarking, after.flatMap p.bareMarking, ?_, ?_⟩, ?_⟩
  · have hblock : p.bareMarking (.reference id) = block (vs.map fun v => marks v.body.toList) := by
      rw [← hvariants, ← Draft.marks_blockText (hfrom.fits.sound id hid) (hfrom.fits.nonempty id hid)]
      rfl
    rw [hfrom.lays.reads, hsplit, List.flatMap_append, List.flatMap_cons, hblock, List.append_assoc]
  · rw [hfits.of_append.names_flatMap, List.length_replicate]
  · exact hvariants ▸ hfrom.fits.nonempty id hid

theorem Woven.exists_variants? (h : c.Woven kind) (horderly : kind.Orderly) {id : String} {k : Nat}
    (ha : c.anchors.find? id k = some a) : ∃ vs, c.variants? id = some vs := by
  obtain ⟨p, hfrom⟩ := h.exists_from horderly
  obtain ⟨before, after, hsplit, -⟩ := hfrom.exists_reference ha
  exact ⟨p.variants id, by rw [hfrom.lays.variants, if_pos (by simp [hsplit])]⟩

theorem exists_block_variant (hvs : ∀ v ∈ vs, v.Sound) (hu : vs[i]? = some u) :
    ∃ front back, block (vs.map fun v => marks v.body.toList) =
        front ++ enclosed (marks u.body.toList) ++ back ∧
      slot 1 vs i = 1 + (Marked.names front).length := by
  by_cases hlen : vs.length = 1
  · obtain ⟨v, rfl⟩ := List.length_eq_one_iff.1 hlen
    obtain rfl : v = u := by
      cases i with
      | zero => exact Option.some.inj hu
      | succ i => cases hu
    exact ⟨[], [], by simp [block], rfl⟩
  · obtain ⟨hi, rfl⟩ := List.getElem?_eq_some_iff.1 hu
    obtain ⟨front, back, heq, hcount⟩ := exists_alternation_eq
      ((vs.take i).map fun v => marks v.body.toList) ((vs.drop (i + 1)).map fun v => marks v.body.toList)
      (marks vs[i].body.toList)
    have hsplit : vs.map (fun v => marks v.body.toList) =
        (vs.take i).map (fun v => marks v.body.toList) ++ marks vs[i].body.toList ::
          (vs.drop (i + 1)).map fun v => marks v.body.toList := by
      conv => lhs; rw [← List.take_append_drop i vs, List.drop_eq_getElem_cons hi]
      rw [List.map_append, List.map_cons]
    have hsum : ((vs.take i).map fun v => marks v.body.toList).map (fun xs => 1 + (Marked.names xs).length) =
        (vs.take i).map groupCount := by
      rw [List.map_map]
      exact List.map_congr_left fun v hv => (hvs v (List.mem_of_mem_take hv)).groupCount.symm
    refine ⟨opener none :: front, back ++ [(')', none)], ?_, ?_⟩
    · rw [block_several (by simpa using hlen), hsplit, heq]
      simp [enclosed]
    · rw [names_cons_opener, List.length_cons, hcount, hsum, slot_several hlen]
      omega

theorem Places.holds (h : c.Places start v) (hblock : v.BlockAt a vs) (hvs : ∀ v ∈ vs, v.Sound)
    (hu : vs[i]? = some u) : c.Holds (start + slot a vs i) u := by
  obtain ⟨front, back, hmarks, rfl⟩ := h
  obtain ⟨front', back', hmarks', rfl⟩ := hblock
  obtain ⟨front'', back'', hmarks'', hcount⟩ := exists_block_variant hvs hu
  refine ⟨front ++ front' ++ front'', back'' ++ back' ++ back, ?_, ?_⟩
  · rw [hmarks, hmarks', hmarks'']
    simp
  · rw [names_append, names_append, List.length_append, List.length_append, Nat.add_comm 1, slot_add, hcount]
    omega

theorem Places.variant (h : c.Places start v) (hblock : v.BlockAt a vs) (hvs : ∀ v ∈ vs, v.Sound)
    (hu : vs[i]? = some u) : c.Places (start + slot a vs i) u := (h.holds hblock hvs hu).places

end CompiledExpression

namespace Match

open CompiledExpression

variable {kind : Kind} {c : CompiledExpression} {text : String} {m : Match}

inductive Found (c : CompiledExpression) (text : String) : Regex → Match → Prop where
  | find {m : Match} (h : c.find? text = some m) : Found c text c.regex m
  | findAt {m : Match} {position : Nat} (h : c.findAt? text position = some m) : Found c text c.regex m
  | lookingAt {m : Match} (h : c.lookingAt? text = some m) : Found c text c.anchored m
  | all {m : Match} (h : m ∈ c.findAll text) : Found c text c.regex m

theorem Found.exists_search {r : Regex} (h : Found c text r m) : (r = c.regex ∨ r = c.anchored) ∧
    ∃ cursor t, r.searchFrom cursor = some t ∧ m = c.matchOf text (r.spans t) := by
  have hfind : ∀ {r : Regex} {position : Nat}, (r.find? text position).map (c.matchOf text) = some m →
      ∃ cursor t, r.searchFrom cursor = some t ∧ m = c.matchOf text (r.spans t) := by
    intro r position h
    obtain ⟨spans, hspans, rfl⟩ := Option.map_eq_some_iff.1 h
    obtain ⟨cursor, t, ht, rfl⟩ := Regex.exists_of_find? hspans
    exact ⟨cursor, t, ht, rfl⟩
  cases h with
  | find h | findAt h => exact ⟨.inl rfl, hfind h⟩
  | lookingAt h => exact ⟨.inr rfl, hfind h⟩
  | all h =>
      obtain ⟨spans, hspans, rfl⟩ := List.mem_map.1 h
      obtain ⟨cursor, t, ht, rfl⟩ := Regex.exists_of_mem_allFrom hspans
      exact ⟨.inl rfl, cursor, t, ht, rfl⟩

def IsFound (c : CompiledExpression) (text : String) (m : Match) : Prop := ∃ r, Found c text r m

/-- What holds of all matches that are found, and of the sub-matches of all that it holds of, holds of all that
arise. -/
@[elab_as_elim]
theorem Arises.of_found {motive : Match → Prop} (h : m.Arises c text)
    (hfound : ∀ m, IsFound c text m → motive m)
    (hsub : ∀ (m s : Match) (id : String) (k : Nat), m.Arises c text → m.subMatch? id k = some s →
      motive m → motive s) : motive m := by
  induction h with
  | find h => exact hfound _ ⟨_, .find h⟩
  | findAt h => exact hfound _ ⟨_, .findAt h⟩
  | lookingAt h => exact hfound _ ⟨_, .lookingAt h⟩
  | all h => exact hfound _ ⟨_, .all h⟩
  | sub h hs ih => exact hsub _ _ _ _ h hs ih

theorem IsFound.exists_spans (h : m.IsFound c text) : ∃ spans, m = c.matchOf text spans := by
  obtain ⟨r, h⟩ := h
  obtain ⟨-, cursor, t, -, rfl⟩ := h.exists_search
  exact ⟨_, rfl⟩

structure PartOf (c : CompiledExpression) (root : Match) (start : Nat) (m : Match) : Prop where
  places : c.Places start m.expression
  within : Within root start m

theorem IsFound.partOf (h : m.IsFound c text) : PartOf c m 0 m := by
  obtain ⟨spans, rfl⟩ := h.exists_spans
  exact ⟨places_self c, by simp [matchOf], fun i _ => by rw [Nat.zero_add]⟩

theorem PartOf.sub {root s : Match} {start : Nat} (h : PartOf c root start m)
    (hwoven : m.expression.Woven kind) (horderly : kind.Orderly) {id : String} {k : Nat}
    (hs : m.subMatch? id k = some s) : ∃ start', PartOf c root start' s := by
  obtain ⟨a, vs, ha, hvs, htook, hblock⟩ := subMatch?_eq_some hs
  obtain ⟨i, hi, hwindow, -⟩ := block?_eq_some hblock htook
  obtain ⟨hat, -⟩ := hwoven.blockAt horderly ha hvs
  have hsound : ∀ v ∈ vs, v.Sound := fun v hv => (hwoven.variants hvs v hv).sound horderly
  refine ⟨start + slot a vs i, ?_, ?_⟩
  · exact h.places.variant hat hsound hi
  · exact h.within.window hwindow

theorem Arises.woven (h : m.Arises c text) (hc : c.Woven kind) : m.expression.Woven kind := by
  refine h.of_found (fun m hm => ?_) fun m s id k _ hs ih => ?_
  · obtain ⟨spans, rfl⟩ := hm.exists_spans
    exact hc
  · obtain ⟨vs, hvs, hmem⟩ := mem_variants_of_subMatch? hs
    exact ih.variants hvs _ hmem

/-- However a match was taken apart, its groups have the spans that were found for them. -/
theorem Arises.exists_root (h : m.Arises c text) (hc : c.Woven kind)
    (horderly : kind.Orderly) :
    ∃ root start, root.IsFound c text ∧ PartOf c root start m := by
  refine h.of_found (fun m hm => ⟨m, 0, hm, hm.partOf⟩) fun m s id k h hs ih => ?_
  obtain ⟨root, start, hroot, hpart⟩ := ih
  obtain ⟨start', hpart'⟩ := hpart.sub (h.woven hc) horderly hs
  exact ⟨root, start', hroot, hpart'⟩

/-- The text that a block matched is the text that one of its variants matched. -/
theorem PartOf.covered {root : Match} {start a : Nat} {vs : List CompiledExpression} {span : Span}
    (h : PartOf c root start m) (hroot : root.IsFound c text) (hc : c.Woven kind)
    (hm : m.expression.Woven kind) (horderly : kind.Orderly)
    (hterse : (Regex.Tree.parse? c.pattern.toList).all Regex.Tree.isTerse)
    (halike : ∀ s ∈ classes (marks c.body.toList), Regex.ClosesAlike s)
    (hat : m.expression.BlockAt a vs) (hne : vs ≠ []) (hwoven : ∀ v ∈ vs, v.Woven kind)
    (hspan : m.spanAt? a = some span) : ∃ i < vs.length, m.variantSpan? a vs i = some span := by
  by_cases hlen : vs.length = 1
  · obtain ⟨v, rfl⟩ := List.length_eq_one_iff.1 hlen
    exact ⟨0, Nat.one_pos, hspan⟩
  -- the search was for the whole pattern, so the block is looked for there, by its number in the whole
  obtain ⟨r, hroot⟩ := hroot
  obtain ⟨hr, cursor, t, ht, rfl⟩ := hroot.exists_search
  have hsound : ∀ v ∈ vs, v.Sound := fun v hv => (hwoven v hv).sound horderly
  have hlt : a < m.expression.groupCount := by
    rw [← h.within.length]
    exact lt_of_participated (participated_iff.2 ⟨span, hspan⟩)
  rw [h.within.spanAt a hlt, spanAt?_matchOf] at hspan
  obtain ⟨front, back, hmarks, hstart⟩ := h.places
  obtain ⟨front', back', hmarks', ha⟩ := id hat
  have hnumber : 1 + (Marked.names (front ++ front')).length = start + a := by
    rw [names_append, List.length_append]
    omega
  have hwhole : marks c.body.toList =
      (front ++ front') ++ block (vs.map fun v => marks v.body.toList) ++ (back' ++ back) := by
    rw [hmarks, hmarks']
    simp
  have hvs : ∀ v ∈ vs, v.Sound ∧ v.IsPattern := fun v hv => ⟨hsound v hv, (hwoven v hv).patterns.isPattern⟩
  split at hspan
  · rw [← hnumber] at hspan
    obtain ⟨slot', hslot, hspan⟩ := (hc.patterns.runs hterse hr).covered (hc.sound horderly) halike hvs hne
      hlen hwhole ht hspan
    obtain ⟨i, hi, rfl⟩ := List.mem_map.1 hslot
    rw [List.mem_range] at hi
    have hi' := List.getElem?_eq_getElem hi
    have hplace := (h.places.variant hat hsound hi').lt (hc.sound horderly)
    have hplace' := ((places_self _).variant hat hsound hi').lt (hm.sound horderly)
    rw [Nat.zero_add] at hplace'
    refine ⟨i, hi, ?_⟩
    rw [variantSpan?, h.within.spanAt _ hplace', spanAt?_matchOf, if_pos hplace, ← slot_add, ← hnumber,
      slot_several hlen]
    exact hspan
  · cases hspan

end Match

namespace Registry

open CompiledExpression

variable {kind : Kind} {r : Registry} {s t : Store} {source : String} {c : CompiledExpression}

/-- The sub-match for a block is a match of the first variant that took part, and has its span. Where
sources and functions are orderly, verbose mode is never switched on and the engine closes every class
where the lexer does, some variant has the span of the block; then the sub-match covers the block just if
no variant ahead of that one took part, be it in an earlier round of a repetition. -/
theorem range_subMatch_eq_iff {o : Options} (h : Reached kind o r s) (hkind : kind.source source)
    (hc : (r.compile source).run s = (.ok c, t)) {text : String} {m sub : Match} (hm : m.Arises c text)
    {id : String} {k : Nat} (hsub : m.subMatch? id k = some sub) :
    ∃ a vs span i, m.expression.anchors.find? id k = some a ∧ m.expression.variants? id = some vs ∧
      m.spanAt? a = some span ∧ vs[i]? = some sub.expression ∧
      m.variantSpan? a vs i = some sub.range ∧ (∀ j < i, m.variantSpan? a vs j = none) ∧
      (kind.Orderly → (Regex.Tree.parse? c.pattern.toList).all Regex.Tree.isTerse →
        (∀ s ∈ classes (marks c.body.toList), Regex.ClosesAlike s) →
        ∃ l < vs.length, m.variantSpan? a vs l = some span ∧
          (∀ j < l, m.variantSpan? a vs j ≠ some span) ∧
          (sub.range = span ↔ ∀ j < l, m.variantSpan? a vs j = none) ∧
          (sub.range = span → vs[l]? = some sub.expression)) := by
  have hwoven := h.woven_of_compile hkind hc
  have hexpression := hm.woven hwoven
  obtain ⟨a, vs, ha, hvs, htook, hblock⟩ := Match.subMatch?_eq_some hsub
  obtain ⟨span, hspan⟩ := Match.participated_iff.1 htook
  obtain ⟨i, hi, hwindow, hfirst, hbefore⟩ := Match.block?_eq_some hblock htook
  have hvariants := hexpression.variants hvs
  have hrange : m.variantSpan? a vs i = some sub.range := by
    obtain ⟨-, -, -, hspans⟩ := Match.window?_eq_some hwindow
    have hpos := (hvariants _ (List.mem_of_getElem? hi)).groupCount_pos
    obtain ⟨span', hspan'⟩ := Match.participated_iff.1 hfirst
    rw [Match.range_eq, hspans 0 hpos, Nat.add_zero, Match.variantSpan?, hspan', Option.getD_some]
  refine ⟨a, vs, span, i, ha, hvs, hspan, hi, hrange, hbefore, fun horderly hterse halike => ?_⟩
  obtain ⟨root, start, hroot, hpart⟩ := hm.exists_root hwoven horderly
  obtain ⟨hat, hne⟩ := hexpression.blockAt horderly ha hvs
  have hcovered := hpart.covered hroot hwoven hexpression horderly hterse halike hat hne hvariants hspan
  -- of the variants with the span of the block the first is taken; the sub-match is of it or of one before it
  classical
  obtain ⟨hl, hlspan⟩ := Nat.find_spec hcovered
  generalize hleast : Nat.find hcovered = l at hl hlspan
  have hother : ∀ j < l, m.variantSpan? a vs j ≠ some span := fun j hj heq =>
    Nat.find_min hcovered (hleast ▸ hj) ⟨Nat.lt_trans hj hl, heq⟩
  have hle : i ≤ l := by
    by_contra hlt
    rw [hbefore l (Nat.lt_of_not_le hlt)] at hlspan
    cases hlspan
  have hsame : sub.range = span → i = l := by
    intro heq
    rw [heq] at hrange
    rcases Nat.lt_or_eq_of_le hle with hlt | heq
    · exact absurd hrange (hother i hlt)
    · exact heq
  refine ⟨l, hl, hlspan, hother, ⟨fun heq => hsame heq ▸ hbefore, fun hnone => ?_⟩, fun heq => hsame heq ▸ hi⟩
  rcases Nat.lt_or_eq_of_le hle with hlt | rfl
  · rw [hnone i hlt] at hrange
    cases hrange
  · rw [hrange] at hlspan
    exact Option.some.inj hlspan

/-- The first variant took part in the first round and the second in the last, so the sub-match covers
what the block matched in the first. -/
theorem range_subMatch_eq_iff_repetition :
    let w := (Definition.expression "a" "x").apply (withOptions ⟨.standard, 2⟩, .empty)
    let v := (Definition.expression "a" "y").apply w
    let source := "(?:${a})+"
    Reached .tidy ⟨.standard, 2⟩ v.1 v.2 ∧ Tidy source ∧
      ∃ c t m sub, (v.1.compile source).run v.2 = (.ok c, t) ∧
        (Regex.Tree.parse? c.pattern.toList).all Regex.Tree.isTerse ∧
        (∀ s ∈ classes (marks c.body.toList), Regex.ClosesAlike s) ∧
        c.find? "xy" = some m ∧ m.subMatch? "a" 0 = some sub ∧
        ∃ a span, m.expression.anchors.find? "a" 0 = some a ∧ m.spanAt? a = some span ∧ sub.range ≠ span := by
  intro w v source
  have hdefinitions : ∀ d ∈ [Definition.expression "a" "x", .expression "a" "y"], d.Permitted .tidy :=
    List.forall_mem_cons.2 ⟨show Tidy "x" by decide +kernel,
      List.forall_mem_singleton.2 (show Tidy "y" by decide +kernel)⟩
  have hreached : Reached .tidy ⟨.standard, 2⟩ v.1 v.2 := reached_of_definitions _ hdefinitions
  have htidy : Tidy source := by decide +kernel
  have hok : ((v.1.compile source).run v.2).1.toOption.any fun c : CompiledExpression =>
      (c.find? "xy").any fun m => decide ((Regex.Tree.parse? c.pattern.toList).all Regex.Tree.isTerse ∧
        (∀ s ∈ classes (marks c.body.toList), Regex.ClosesAlike s) ∧ (m.subMatch? "a" 0).isSome ∧
        m.expression.anchors.find? "a" 0 = some 1 ∧ m.spanAt? 1 = some ⟨1, 2⟩ ∧
        (m.expression.variants? "a").map (m.variantSpan? 1 · 0) = some (some ⟨0, 1⟩)) := by decide +kernel
  obtain ⟨c, t, hrun, hc⟩ := Compiling.exists_run_of_any hok
  obtain ⟨m, hm, hfound⟩ := (Option.any_eq_true _ _).1 hc
  obtain ⟨hterse, halike, hsome, hanchor, hlast, hearlier⟩ := of_decide_eq_true hfound
  obtain ⟨sub, hsub⟩ := Option.isSome_iff_exists.1 hsome
  refine ⟨hreached, htidy, c, t, m, sub, hrun, hterse, halike, hm, hsub, 1, ⟨1, 2⟩, hanchor, hlast, ?_⟩
  obtain ⟨a, vs, span, i, ha, hvs, hspan, -, -, -, hcovers⟩ :=
    range_subMatch_eq_iff hreached htidy hrun (.find hm) hsub
  obtain rfl : 1 = a := Option.some.inj (hanchor.symm.trans ha)
  obtain rfl : ⟨1, 2⟩ = span := Option.some.inj (hlast.symm.trans hspan)
  rw [hvs] at hearlier
  have hzero : m.variantSpan? 1 vs 0 = some ⟨0, 1⟩ := Option.some.inj hearlier
  obtain ⟨l, -, hl, -, hiff, -⟩ := hcovers Kind.orderly_tidy hterse halike
  intro heq
  cases l with
  | zero =>
      rw [hzero] at hl
      cases hl
  | succ l =>
      have hnone := hiff.1 heq 0 (Nat.succ_pos l)
      rw [hzero] at hnone
      cases hnone

end Registry

end Patchwork
