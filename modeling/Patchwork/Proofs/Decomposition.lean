import Patchwork.Proofs.Occurrences
import Patchwork.Proofs.SubMatch

namespace Patchwork

open Token Marked

namespace Supply

variable {p : Supply}

theorem records_anchorsFrom (ts : List Token) :
    Anchors.Records ((p.anchorsFrom [] ts).map fun e => (e.1, e.2.id)) (p.anchorsFrom [] ts) := by
  induction ts using List.reverseRecOn with
  | nil => exact .nil
  | append_singleton ts t ih =>
      rw [anchorsFrom_append, List.nil_append, List.map_append]
      cases t with
      | reference id =>
          have hstep := ih.append (1 + p.size ts) id
          have hcount : ((p.anchorsFrom [] ts).map fun e => (e.1, e.2.id)).countP (fun call => call.2 = id) =
              ts.count (.reference id) := by
            rw [← countP_anchorsFrom [] ts id, List.countP_map, List.countP_map]
            rfl
          rw [hcount] at hstep
          exact hstep
      | text | escape | charClass | groupOpen | namedOpen | specialOpen | call => simpa [anchorsFrom] using ih

theorem Lays.isSome_find?_iff {c : CompiledExpression} (h : p.Lays c) (id : String) (k : Nat) :
    (c.anchors.find? id k).isSome ↔ k < c.anchors.occurrences id := by
  have hrecords := records_anchorsFrom (p := p) (lex c.source)
  rw [← h.anchors] at hrecords
  exact hrecords.isSome_find?_iff id k

theorem height_foldl_le_iff {ts : List Token} {d : Draft} {b : Nat} :
    (ts.foldl p.take d).height ≤ b ↔
      d.height ≤ b ∧ ∀ id, .reference id ∈ ts → ∀ v ∈ p.variants id, v.height < b := by
  induction ts generalizing d with
  | nil => simp
  | cons t ts ih =>
      rw [List.foldl_cons, ih]
      cases t with
      | reference id =>
          simp only [take, Draft.height_splice, Draft.raisedBy_le_iff, List.mem_cons, Token.reference.injEq,
            or_imp, forall_and, forall_eq, and_assoc]
      | text | escape | charClass | groupOpen | namedOpen | specialOpen | call =>
          simp [take, Draft.append]

end Supply

namespace CompiledExpression

variable {kind : Kind} {c u v : CompiledExpression} {vs : List CompiledExpression} {start a i : Nat}

theorem Woven.height_lt (h : c.Woven kind) {id : String} (hvs : c.variants? id = some vs) :
    ∀ v ∈ vs, v.height < c.height := by
  cases h with
  | intro _ _ _ _ _ assembled =>
      intro v hv
      obtain ⟨id', hid, hv⟩ := Compiling.mem_variants_of_assemble assembled hvs hv
      rw [Compiling.height_of_assemble assembled]
      exact (Supply.height_foldl_le_iff.1 (Nat.le_refl _)).2 id' hid v hv

theorem Woven.isSome_find?_iff (h : c.Woven kind) (horderly : kind.Orderly) (id : String) (k : Nat) :
    (c.anchors.find? id k).isSome ↔ k < c.anchors.occurrences id := by
  obtain ⟨p, hfrom⟩ := h.exists_from horderly
  exact hfrom.lays.isSome_find?_iff id k

theorem Places.add_groupCount_le (h : c.Places start v) (hc : c.Sound) (hv : v.Sound) :
    start + v.groupCount ≤ c.groupCount := by
  obtain ⟨front, back, hmarks, rfl⟩ := h
  rw [hc.groupCount, hv.groupCount, hmarks, names_append, names_append, List.length_append,
    List.length_append]
  omega

end CompiledExpression

namespace Match

open CompiledExpression

variable {kind : Kind} {c v : CompiledExpression} {vs : List CompiledExpression} {text : String}
  {m s : Match} {a : Nat}

def blockStart? (m : Match) (anchor : Nat) : List CompiledExpression → Option Nat
  | [_] => some anchor
  | variants => (m.pickVariant? (anchor + 1) variants).map Prod.snd

def subStart? (m : Match) (id : String) (occurrence : Nat) : Option Nat :=
  match m.expression.anchors.find? id occurrence, m.expression.variants? id with
  | some anchor, some variants => m.blockStart? anchor variants
  | _, _ => none

/-- The sub-match at the end of a path, each step of which names an occurrence of an identifier. -/
def descend? : Match → List (String × Nat) → Option Match
  | m, [] => some m
  | m, (id, k) :: path => (m.subMatch? id k).bind fun s => s.descend? path

def localStarts : Match → List (String × Nat) → List Nat
  | _, [] => []
  | m, (id, k) :: path =>
    (m.subStart? id k).toList ++ ((m.subMatch? id k).map fun s => s.localStarts path).getD []

theorem blockStart?_several (hlen : vs.length ≠ 1) :
    m.blockStart? a vs = (m.pickVariant? (a + 1) vs).map Prod.snd := by
  match vs with
  | [] | _ :: _ :: _ => rfl
  | [v] => exact absurd rfl hlen

theorem window?_of_block? (h : m.block? a vs = some s) :
    ∃ i, vs[i]? = some s.expression ∧ m.blockStart? a vs = some (slot a vs i) ∧
      m.window? s.expression (slot a vs i) = some s := by
  by_cases hlen : vs.length = 1
  · obtain ⟨v, rfl⟩ := List.length_eq_one_iff.1 hlen
    have hexpression := expression_of_window? (c := v) h
    exact ⟨0, congrArg some hexpression.symm, rfl, by rw [hexpression]; exact h⟩
  · rw [block?_several hlen] at h
    obtain ⟨⟨v, found⟩, hpick, hwindow⟩ := Option.bind_eq_some_iff.1 h
    obtain ⟨i, hv, hfound, -⟩ := pickVariant?_eq_some hpick
    rw [← slot_several hlen] at hfound
    subst hfound
    have hexpression := expression_of_window? hwindow
    exact ⟨i, by rw [hv, hexpression], by rw [blockStart?_several hlen, hpick]; rfl, by rw [hexpression, hwindow]⟩

theorem window?_of_subMatch? {id : String} {k : Nat} (h : m.subMatch? id k = some s) :
    ∃ a vs i, m.expression.anchors.find? id k = some a ∧ m.expression.variants? id = some vs ∧
      vs[i]? = some s.expression ∧ m.subStart? id k = some (slot a vs i) ∧
        m.window? s.expression (slot a vs i) = some s := by
  obtain ⟨a, vs, ha, hvs, -, hblock⟩ := subMatch?_eq_some h
  obtain ⟨i, hi, hstart, hwindow⟩ := window?_of_block? hblock
  exact ⟨a, vs, i, ha, hvs, hi, by simp only [subStart?, ha, hvs, hstart], hwindow⟩

theorem eq_of_window? {start : Nat} (h : m.window? v start = some s) :
    start + v.groupCount ≤ m.spans.length ∧ s = ⟨m.text, v, (m.spans.drop start).take v.groupCount⟩ := by
  unfold window? at h
  split at h
  · next hle => exact ⟨hle, (Option.some.inj h).symm⟩
  · cases h

theorem length_spans_of_subMatch? {id : String} {k : Nat} (h : m.subMatch? id k = some s) :
    s.spans.length = s.expression.groupCount := by
  obtain ⟨a, vs, i, -, -, -, -, hwindow⟩ := window?_of_subMatch? h
  exact (window?_eq_some hwindow).2.2.1

theorem Arises.length_spans (h : m.Arises c text) : m.spans.length = m.expression.groupCount := by
  refine h.of_found (fun m hm => ?_) fun m s id k _ hs _ => length_spans_of_subMatch? hs
  obtain ⟨spans, rfl⟩ := hm.exists_spans
  simp [matchOf]

/-- The groups of a sub-match, however deep, are a run of the groups of the match, and the path to it is
no longer than the form is high. -/
theorem descend?_eq_some {path : List (String × Nat)} (hm : m.expression.Woven kind)
    (hlength : m.spans.length = m.expression.groupCount) (h : m.descend? path = some s) :
    s.text = m.text ∧
      (m.localStarts path).sum + s.expression.groupCount ≤ m.spans.length ∧
      s.spans = (m.spans.drop (m.localStarts path).sum).take s.expression.groupCount ∧
      path.length + s.expression.height ≤ m.expression.height := by
  induction path generalizing m with
  | nil =>
      obtain rfl := Option.some.inj h
      refine ⟨rfl, ?_, ?_, ?_⟩
      · simp [localStarts, hlength]
      · simp [localStarts, ← hlength]
      · simp
  | cons step path ih =>
      obtain ⟨id, k⟩ := step
      obtain ⟨u, hu, h⟩ := Option.bind_eq_some_iff.1 h
      obtain ⟨a, vs, i, -, hvs, hi, hstart, hwindow⟩ := window?_of_subMatch? hu
      have hmem := List.mem_of_getElem? hi
      obtain ⟨htext, hle, hspans, hheight⟩ :=
        ih (hm.variants hvs _ hmem) (length_spans_of_subMatch? hu) h
      have hlower := hm.height_lt hvs _ hmem
      have hsum : (m.localStarts ((id, k) :: path)).sum = slot a vs i + (u.localStarts path).sum := by
        simp [localStarts, hstart, hu]
      -- a window of a window begins at the sum of the two starts
      obtain ⟨hfits, heq⟩ := eq_of_window? hwindow
      rw [heq] at htext hspans hle
      dsimp only at htext hspans hle
      rw [← heq] at hspans hle
      rw [List.length_take, List.length_drop] at hle
      refine ⟨htext, by omega, ?_, ?_⟩
      · rw [hspans, hsum, List.drop_take, List.take_take, List.drop_drop]
        congr 1
        omega
      · rw [List.length_cons]
        omega

theorem isSome_pickVariant? {slot : Nat}
    (h : ∃ i < vs.length, m.participated (slot + ((vs.take i).map (·.groupCount)).sum)) :
    (m.pickVariant? slot vs).isSome := by
  induction vs generalizing slot with
  | nil =>
      obtain ⟨i, hi, -⟩ := h
      cases hi
  | cons v vs ih =>
      unfold pickVariant?
      split
      · rfl
      · next hno =>
          obtain ⟨i, hi, htook⟩ := h
          cases i with
          | zero => exact absurd htook hno
          | succ i =>
              refine ih ⟨i, Nat.lt_of_succ_lt_succ hi, ?_⟩
              rwa [List.take_succ_cons, List.map_cons, List.sum_cons, ← Nat.add_assoc] at htook

theorem isSome_window? {start : Nat} (h : start + v.groupCount ≤ m.spans.length) :
    (m.window? v start).isSome := by
  rw [window?, if_pos h]
  rfl

theorem isSome_block?_iff (hlength : m.spans.length = m.expression.groupCount)
    (hm : m.expression.Sound) (hvs : ∀ v ∈ vs, v.Sound) (hat : m.expression.BlockAt a vs)
    (ha : m.participated a) :
    (m.block? a vs).isSome ↔ ∃ i < vs.length, m.participated (slot a vs i) := by
  have hfits : ∀ i v, vs[i]? = some v → slot a vs i + v.groupCount ≤ m.spans.length := by
    intro i v hv
    have hplaces := (places_self m.expression).variant hat hvs hv
    rw [Nat.zero_add] at hplaces
    rw [hlength]
    exact hplaces.add_groupCount_le hm (hvs v (List.mem_of_getElem? hv))
  by_cases hlen : vs.length = 1
  · obtain ⟨v, rfl⟩ := List.length_eq_one_iff.1 hlen
    have hsome : (m.block? a [v]).isSome := isSome_window? (hfits 0 v rfl)
    exact iff_of_true hsome ⟨0, Nat.one_pos, ha⟩
  · constructor
    · intro hsome
      obtain ⟨s, hs⟩ := Option.isSome_iff_exists.1 hsome
      obtain ⟨i, hi, -, htook, -⟩ := block?_eq_some hs ha
      exact ⟨i, (List.getElem?_eq_some_iff.1 hi).1, htook⟩
    · intro htook
      simp only [slot_several hlen] at htook hfits
      obtain ⟨⟨v, found⟩, hpick⟩ := Option.isSome_iff_exists.1 (isSome_pickVariant? htook)
      obtain ⟨i, hv, rfl, -⟩ := pickVariant?_eq_some hpick
      rw [block?_several hlen, hpick]
      exact isSome_window? (hfits i v hv)

end Match

namespace Registry

open CompiledExpression

variable {kind : Kind} {r : Registry} {s t : Store} {source : String} {c : CompiledExpression}

/-- The groups of every sub-match, however deep, are a run of the groups of the match, which begins where
those of the sub-matches on the way say. Where sources and functions are orderly, the anchors number the
references to an identifier without a gap, and a reference has a sub-match just if its block took part
and one of the block's variants did; and if besides verbose mode is never switched on and the engine
closes every class where the lexer does, just if the block took part. -/
theorem isSome_subMatch_iff {o : Options} (h : Reached kind o r s) (hkind : kind.source source)
    (hc : (r.compile source).run s = (.ok c, t)) {text : String} {m : Match} (hm : m.Arises c text) :
    (∀ path sub, m.descend? path = some sub → sub.text = m.text ∧
      (m.localStarts path).sum + sub.expression.groupCount ≤ m.spans.length ∧
      sub.spans = (m.spans.drop (m.localStarts path).sum).take sub.expression.groupCount ∧
      path.length + sub.expression.height ≤ m.expression.height) ∧
    (kind.Orderly → ∀ id k,
      ((m.expression.anchors.find? id k).isSome ↔ k < m.expression.anchors.occurrences id) ∧
      ((m.subMatch? id k).isSome ↔ ∃ a vs, m.expression.anchors.find? id k = some a ∧
        m.expression.variants? id = some vs ∧ m.participated a ∧
          ∃ i < vs.length, m.participated (slot a vs i)) ∧
      ((Regex.Tree.parse? c.pattern.toList).all Regex.Tree.isTerse →
        (∀ s ∈ classes (marks c.body.toList), Regex.ClosesAlike s) →
        ((m.subMatch? id k).isSome ↔ k < m.expression.anchors.occurrences id ∧
          ∃ a, m.expression.anchors.find? id k = some a ∧ m.participated a))) := by
  have hwoven := h.woven_of_compile hkind hc
  have hexpression := hm.woven hwoven
  refine ⟨fun path sub hsub => Match.descend?_eq_some hexpression hm.length_spans hsub, ?_⟩
  intro horderly id k
  have hfind := hexpression.isSome_find?_iff horderly id k
  have hblock : ∀ {a vs}, m.expression.anchors.find? id k = some a → m.expression.variants? id = some vs →
      m.participated a → ((m.block? a vs).isSome ↔ ∃ i < vs.length, m.participated (slot a vs i)) := by
    intro a vs ha hvs htook
    have hsound : ∀ v ∈ vs, v.Sound := fun v hv => (hexpression.variants hvs v hv).sound horderly
    exact Match.isSome_block?_iff hm.length_spans (hexpression.sound horderly) hsound
      (hexpression.blockAt horderly ha hvs).1 htook
  have hsome : (m.subMatch? id k).isSome ↔ ∃ a vs, m.expression.anchors.find? id k = some a ∧
      m.expression.variants? id = some vs ∧ m.participated a ∧
        ∃ i < vs.length, m.participated (slot a vs i) := by
    constructor
    · intro hsub
      obtain ⟨sub, hsub⟩ := Option.isSome_iff_exists.1 hsub
      obtain ⟨a, vs, ha, hvs, htook, hsub⟩ := Match.subMatch?_eq_some hsub
      exact ⟨a, vs, ha, hvs, htook, (hblock ha hvs htook).1 (Option.isSome_iff_exists.2 ⟨sub, hsub⟩)⟩
    · rintro ⟨a, vs, ha, hvs, htook, hvariant⟩
      simp only [Match.subMatch?, ha, hvs, if_pos htook]
      exact (hblock ha hvs htook).2 hvariant
  refine ⟨hfind, hsome, fun hterse halike => ?_⟩
  rw [hsome]
  constructor
  · rintro ⟨a, vs, ha, -, htook, -⟩
    exact ⟨hfind.1 (Option.isSome_iff_exists.2 ⟨a, ha⟩), a, ha, htook⟩
  · rintro ⟨-, a, ha, htook⟩
    obtain ⟨vs, hvs⟩ := hexpression.exists_variants? horderly ha
    obtain ⟨span, hspan⟩ := Match.participated_iff.1 htook
    obtain ⟨root, start, hroot, hpart⟩ := hm.exists_root hwoven horderly
    obtain ⟨hat, hne⟩ := hexpression.blockAt horderly ha hvs
    -- one of the variants has the span of the block, so that this one took part
    obtain ⟨i, hi, hcovered⟩ := hpart.covered hroot hwoven hexpression horderly hterse halike hat hne
      (hexpression.variants hvs) hspan
    exact ⟨a, vs, ha, hvs, htook, i, hi, Match.participated_iff.2 ⟨span, hcovered⟩⟩

/-- One block of two took part, and there is a block within it: its sub-match is the run of one group that
begins at the sum of the starts on the way. -/
theorem isSome_subMatch_iff_nested :
    let w := (Definition.expression "a" "x").apply (withOptions ⟨.standard, 2⟩, .empty)
    let v := (Definition.expression "b" "(?:${a})+y").apply w
    let source := "${b}|${a}"
    Reached .tidy ⟨.standard, 2⟩ v.1 v.2 ∧ Tidy source ∧
      ∃ c t m sub, (v.1.compile source).run v.2 = (.ok c, t) ∧
        (Regex.Tree.parse? c.pattern.toList).all Regex.Tree.isTerse ∧
        (∀ s ∈ classes (marks c.body.toList), Regex.ClosesAlike s) ∧
        c.find? "xxy" = some m ∧ (m.subMatch? "b" 0).isSome ∧ ¬(m.subMatch? "a" 0).isSome ∧
        m.descend? [("b", 0), ("a", 0)] = some sub ∧ m.localStarts [("b", 0), ("a", 0)] = [1, 1] ∧
        sub.spans = (m.spans.drop 2).take sub.expression.groupCount := by
  intro w v source
  have hdefinitions : ∀ d ∈ [Definition.expression "a" "x", .expression "b" "(?:${a})+y"],
      d.Permitted .tidy :=
    List.forall_mem_cons.2 ⟨show Tidy "x" by decide +kernel,
      List.forall_mem_singleton.2 (show Tidy "(?:${a})+y" by decide +kernel)⟩
  have hreached : Reached .tidy ⟨.standard, 2⟩ v.1 v.2 := reached_of_definitions _ hdefinitions
  have htidy : Tidy source := by decide +kernel
  have hok : ((v.1.compile source).run v.2).1.toOption.any fun c : CompiledExpression =>
      (c.find? "xxy").any fun m => decide ((Regex.Tree.parse? c.pattern.toList).all Regex.Tree.isTerse ∧
        (∀ s ∈ classes (marks c.body.toList), Regex.ClosesAlike s) ∧
        0 < m.expression.anchors.occurrences "b" ∧ m.expression.anchors.find? "b" 0 = some 1 ∧
        m.participated 1 ∧ m.expression.anchors.find? "a" 0 = some 3 ∧ m.participated 3 = false ∧
        (m.descend? [("b", 0), ("a", 0)]).isSome ∧ m.localStarts [("b", 0), ("a", 0)] = [1, 1]) := by
    decide +kernel
  obtain ⟨c, t, hrun, hc⟩ := Compiling.exists_run_of_any hok
  obtain ⟨m, hm, hfound⟩ := (Option.any_eq_true _ _).1 hc
  obtain ⟨hterse, halike, hcount, hb, htook, ha, hnot, hsome, hstarts⟩ := of_decide_eq_true hfound
  obtain ⟨sub, hsub⟩ := Option.isSome_iff_exists.1 hsome
  obtain ⟨hdescend, hiff⟩ := isSome_subMatch_iff hreached htidy hrun (.find hm)
  obtain ⟨-, -, hspans, -⟩ := hdescend _ sub hsub
  obtain ⟨-, -, hbIff⟩ := hiff Kind.orderly_tidy "b" 0
  obtain ⟨-, -, haIff⟩ := hiff Kind.orderly_tidy "a" 0
  rw [hstarts] at hspans
  refine ⟨hreached, htidy, c, t, m, sub, hrun, hterse, halike, hm, ?_, ?_, hsub, hstarts, hspans⟩
  · exact (hbIff hterse halike).2 ⟨hcount, 1, hb, htook⟩
  · rw [haIff hterse halike]
    rintro ⟨-, a, ha', htook'⟩
    obtain rfl : 3 = a := Option.some.inj (ha.symm.trans ha')
    rw [hnot] at htook'
    cases htook'

end Registry

end Patchwork
