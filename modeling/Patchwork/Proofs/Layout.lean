import Patchwork.Proofs.Reachable

namespace Patchwork

open Token Marked

def Token.references (ts : List Token) : List String :=
  ts.filterMap fun
    | .reference id => some id
    | _ => none

namespace CompiledExpression

def tokenGroups (c : CompiledExpression) : Token → Nat
  | .groupOpen | .namedOpen .. => 1
  | .reference id => Draft.blockSize ((c.variants? id).getD [])
  | _ => 0

def groupAfter (c : CompiledExpression) (ts : List Token) : Nat := 1 + (ts.map c.tokenGroups).sum

def OpensAt (c : CompiledExpression) (a groups : Nat) (text : String) : Prop :=
  ∃ front back, c.body = front ++ text ++ back ∧ a = countCapturing front + 1 ∧
    countCapturing (front ++ text) = countCapturing front + groups ∧
    countCapturing c.body = countCapturing front + groups + countCapturing back

/-- Among several variants, each has a group for its whole match behind the groups of those before
it; a variant that is the only one shares the group of the block. -/
def slot (a : Nat) : List CompiledExpression → Nat → Nat
  | [_], _ => a
  | vs, i => a + 1 + ((vs.take i).map groupCount).sum

theorem slot_several {vs : List CompiledExpression} (hlen : vs.length ≠ 1) (a i : Nat) :
    slot a vs i = a + 1 + ((vs.take i).map groupCount).sum := by
  match vs with
  | [] | _ :: _ :: _ => rfl
  | [v] => exact absurd rfl hlen

structure HasBlock (c : CompiledExpression) (a : Nat) (vs : List CompiledExpression) : Prop where
  block : c.OpensAt a (Draft.blockSize vs) (Draft.blockText vs)
  variant : ∀ i v, vs[i]? = some v →
    c.OpensAt (slot a vs i) v.groupCount ("(" ++ v.body ++ ")") ∧
      ∀ k < v.groupCount, c.names.get? (slot a vs i + k) = v.names.get? k

theorem opensAt_of_marks {c : CompiledExpression} {front text back : List Char}
    (hbody : c.body.toList = front ++ text ++ back)
    (hfront : ∀ next, marks (front ++ (text ++ next)) = marks front ++ marks (text ++ next))
    (htext : IsClosed text) :
    c.OpensAt (1 + (Marked.names (marks front)).length) (Marked.names (marks text)).length
      (String.ofList text) := by
  have hwhole : marks c.body.toList = marks front ++ marks text ++ marks back := by
    rw [hbody, List.append_assoc, hfront, htext, List.append_assoc]
  have hbefore : marks (front ++ text) = marks front ++ marks text := by
    simpa using hfront []
  refine ⟨String.ofList front, String.ofList back, ?_, ?_, ?_, ?_⟩
  · apply String.toList_injective
    simp [hbody]
  · rw [countCapturing_eq, String.toList_ofList, Nat.add_comm]
  · simp [countCapturing_eq, hbefore]
  · simp [countCapturing_eq, hwhole, Nat.add_assoc]

end CompiledExpression

namespace Supply

variable {p : Supply} {c : CompiledExpression}

theorem length_anchorsFrom (before ts : List Token) :
    (p.anchorsFrom before ts).length = (references ts).length := by
  induction ts generalizing before with
  | nil => rfl
  | cons t ts ih => cases t <;> simp [anchorsFrom, references, ih]

theorem Lays.tokenGroups_eq (h : p.Lays c) {t : Token} (ht : t ∈ lex c.source) :
    c.tokenGroups t = (p.table t).length := by
  cases t with
  | reference id =>
      rw [CompiledExpression.tokenGroups, h.variants, if_pos ht, table, Draft.length_blockTable]
      rfl
  | text | escape | charClass | groupOpen | namedOpen | specialOpen | call =>
      simp [CompiledExpression.tokenGroups, table, marked]

theorem Lays.groupAfter_eq (h : p.Lays c) {before after : List Token}
    (hsplit : lex c.source = before ++ after) : c.groupAfter before = 1 + p.size before := by
  have hmap : before.map c.tokenGroups = before.map fun t => (p.table t).length :=
    List.map_congr_left fun t ht => h.tokenGroups_eq (hsplit ▸ List.mem_append_left _ ht)
  rw [CompiledExpression.groupAfter, hmap, size, List.length_flatMap]

variable {before after : List Token} {id : String}

theorem Lays.opensAt (h : p.Lays c) (htidy : Tidy c.source) (hfits : p.Fits (lex c.source))
    (hsplit : lex c.source = before ++ .reference id :: after) {front text back : List Char}
    (hblock : (Draft.blockText (p.variants id)).toList = front ++ text ++ back)
    (hfront : ∀ next, marks (front ++ (text ++ next)) = marks front ++ marks (text ++ next))
    (hhead : (front ++ text).head? = some '(') (htext : IsClosed text) :
    c.OpensAt (1 + p.size before + (Marked.names (marks front)).length) (Marked.names (marks text)).length
      (String.ofList text) := by
  have hstand := allStand_lexList htidy.1
  change AllStand (lex c.source) at hstand
  rw [hsplit] at hfits hstand
  have hbare : ∀ rest, Ends rest → marks (before.flatMap p.bare ++ rest) =
      before.flatMap p.bareMarking ++ marks rest :=
    fun rest hrest => marks_flatMap hstand hfits.of_append.barePiece hrest
  have hnil := hbare [] ends_nil
  rw [List.append_nil, marks_nil, List.append_nil] at hnil
  have hends : Ends front ∧ ∀ next, Ends (front ++ (text ++ next)) := by
    cases front with
    | nil =>
        refine ⟨ends_nil, fun next => ends_of_head ?_⟩
        cases text with
        | nil => cases hhead
        | cons d ds => exact hhead
    | cons d ds => exact ⟨ends_of_head hhead, fun next => ends_of_head hhead⟩
  have hbody : c.body.toList = before.flatMap p.bare ++ front ++ text ++ (back ++ after.flatMap p.bare) := by
    rw [h.body, hsplit, List.flatMap_append, List.flatMap_cons]
    simp [bare, written, hblock]
  have hmarks : ∀ next, marks (before.flatMap p.bare ++ front ++ (text ++ next)) =
      marks (before.flatMap p.bare ++ front) ++ marks (text ++ next) := by
    intro next
    rw [List.append_assoc, hbare _ (hends.2 next), hfront, hbare _ hends.1, List.append_assoc]
  have hopens := CompiledExpression.opensAt_of_marks hbody hmarks htext
  rw [hbare _ hends.1, names_append, List.length_append, hfits.of_append.names_flatMap,
    List.length_replicate, ← Nat.add_assoc] at hopens
  exact hopens

theorem Lays.names_get? (h : p.Lays c) (hsplit : lex c.source = before ++ .reference id :: after)
    {k : Nat} (hk : k < Draft.blockSize (p.variants id)) :
    c.names.get? (1 + p.size before + k) = (Draft.blockTable (p.variants id))[k]?.join := by
  rw [h.names, hsplit, List.flatMap_append, List.flatMap_cons, ← List.cons_append, List.getElem?_append_right]
  · have hindex : 1 + p.size before + k - (none :: before.flatMap p.table).length = k := by
      simp only [List.length_cons, size]
      omega
    rw [hindex, List.getElem?_append_left]
    · rfl
    · exact (Draft.length_blockTable _).symm ▸ hk
  · simp only [List.length_cons, size]
    omega

theorem Lays.opensAt_several (h : p.Lays c) (htidy : Tidy c.source) (hfits : p.Fits (lex c.source))
    (hsplit : lex c.source = before ++ .reference id :: after) {us ws : List CompiledExpression}
    {v : CompiledExpression} (hvs : p.variants id = us ++ v :: ws) (hlen : (p.variants id).length ≠ 1) :
    c.OpensAt (1 + p.size before + 1 + (us.map (·.groupCount)).sum) v.groupCount ("(" ++ v.body ++ ")") ∧
      ∀ k < v.groupCount,
        c.names.get? (1 + p.size before + 1 + (us.map (·.groupCount)).sum + k) = v.names.get? k := by
  have hmem : Token.reference id ∈ lex c.source := by simp [hsplit]
  have hsound := hfits.sound id hmem
  have hv : v.Sound := hsound v (by simp [hvs])
  obtain ⟨front, back, hblock, hclosed, hhead, hcount⟩ :=
    Draft.exists_alternatives_eq us ws v fun u hu => hsound u (by simp [hvs, hu])
  have hwhole : (Draft.blockText (p.variants id)).toList =
      '(' :: front ++ group v.body.toList ++ (back ++ [')']) := by
    rw [Draft.toList_blockText_several (hfits.nonempty id hmem) hlen, hvs, hblock, group]
    simp
  have hopen : ∀ next, (front ++ (group v.body.toList ++ next)).head? ≠ some '?' := by
    intro next
    cases front with
    | nil => simp [group]
    | cons d ds => exact hhead
  have hmarks : ∀ next, marks ('(' :: front ++ (group v.body.toList ++ next)) =
      marks ('(' :: front) ++ marks (group v.body.toList ++ next) := by
    intro next
    rw [List.cons_append, marks_open (hopen next), hclosed, marks_open hhead, List.cons_append]
  have hopens := h.opensAt htidy hfits hsplit hwhole hmarks rfl hv.tight.sealed.closed
  have hgroups : (Marked.names (marks (group v.body.toList))).length = v.groupCount := by
    rw [hv.tight.marks_group, List.cons_append, names_cons_opener, names_append, hv.groupCount]
    simp [Nat.add_comm]
  have htext : String.ofList (group v.body.toList) = "(" ++ v.body ++ ")" := by
    apply String.toList_injective
    simp [group]
  rw [marks_open hhead, names_cons_opener, List.length_cons, hcount, hgroups, htext, Nat.add_comm _ 1,
    ← Nat.add_assoc] at hopens
  refine ⟨hopens, fun k hk => ?_⟩
  have hsize : 1 + (us.map (·.groupCount)).sum + k < Draft.blockSize (p.variants id) := by
    rw [Draft.blockSize_several hlen, hvs]
    simp only [List.map_append, List.map_cons, List.sum_append, List.sum_cons]
    omega
  have hget := h.names_get? hsplit hsize
  rw [hvs, Draft.getElem?_blockTable (hvs ▸ hlen) hk] at hget
  rw [← hget]
  congr 1
  omega

theorem Lays.hasBlock (h : p.Lays c) (htidy : Tidy c.source) (hfits : p.Fits (lex c.source))
    (hsplit : lex c.source = before ++ .reference id :: after) :
    c.HasBlock (1 + p.size before) (p.variants id) := by
  have hmem : Token.reference id ∈ lex c.source := by simp [hsplit]
  have hsound := hfits.sound id hmem
  have hne := hfits.nonempty id hmem
  obtain ⟨hsealed, hnames⟩ := Draft.blockText_reads hsound hne
  have hblock : (Draft.blockText (p.variants id)).toList =
      [] ++ (Draft.blockText (p.variants id)).toList ++ [] := by simp
  have hwhole := h.opensAt htidy hfits hsplit hblock (by simp) (by simpa using hsealed.head) hsealed.closed
  simp only [hnames, marks_nil, names_nil, List.length_nil, List.length_replicate, Nat.add_zero,
    String.ofList_toList] at hwhole
  refine ⟨hwhole, fun i v hv => ?_⟩
  by_cases hlen : (p.variants id).length = 1
  · obtain ⟨u, hu⟩ := List.length_eq_one_iff.1 hlen
    rw [hu] at hv hwhole ⊢
    obtain ⟨rfl, rfl⟩ : i = 0 ∧ u = v := by
      cases i with
      | zero => exact ⟨rfl, Option.some.inj hv⟩
      | succ i => cases hv
    refine ⟨hwhole, fun k hk => ?_⟩
    have hget := h.names_get? hsplit (k := k) (by rw [hu]; exact hk)
    rw [hu] at hget
    exact hget.trans (Draft.getElem?_table hk)
  · obtain ⟨hi, rfl⟩ := List.getElem?_eq_some_iff.1 hv
    have hvs : p.variants id =
        (p.variants id).take i ++ (p.variants id)[i] :: (p.variants id).drop (i + 1) := by simp
    rw [CompiledExpression.slot_several hlen]
    exact h.opensAt_several htidy hfits hsplit hvs hlen

end Supply

namespace Registry

variable {r : Registry} {s t : Store} {source : String} {c : CompiledExpression}

/-- Every reference of a tidy source has its anchor, in their order, and a block for the forms of all
that is registered under its identifier; the blocks and the source's own groups share out all groups. -/
theorem layout_of_compile {o : Options} (h : Reached .tidy o r s) (htidy : Tidy source)
    (hc : (r.compile source).run s = (.ok c, t)) :
    c.anchors.size = (references (lex source)).length ∧
      c.groupCount = c.groupAfter (lex source) ∧
      (∀ id, .reference id ∉ lex source → c.variants? id = none) ∧
      ∀ before id after, lex source = before ++ .reference id :: after →
        ∃ vs, c.variants? id = some vs ∧ vs ≠ [] ∧ (r.variants id).map t.published? = vs.map some ∧
          c.anchors.toList[(references before).length]? =
            some (c.groupAfter before, ⟨id, before.count (.reference id)⟩) ∧
          c.HasBlock (c.groupAfter before) vs := by
  obtain ⟨result, u, hrun, hkeeps, hcompiles⟩ := h.keeps.run_compile_source source
  rw [hc] at hrun
  obtain ⟨rfl, rfl⟩ := Prod.mk.inj hrun
  have hcompiles := hcompiles c rfl
  obtain rfl := hcompiles.source_eq
  have hfits := (hkeeps.offers hcompiles.1).fits Kind.orderly_tidy fun v hv => hv.sound Kind.orderly_tidy
  have hlays := Supply.lays_of_assemble htidy hfits hcompiles.2
  refine ⟨?_, ?_, fun id hid => ?_, fun before id after hsplit => ?_⟩
  · rw [GroupMap.size, hlays.anchors, Supply.length_anchorsFrom]
  · rw [hlays.groupCount, hlays.groupAfter_eq (List.append_nil _).symm]
  · rw [hlays.variants, if_neg hid]
  · have hmem : Token.reference id ∈ lex c.source := by simp [hsplit]
    refine ⟨(r.supply t).variants id, ?_, hfits.nonempty id hmem, ?_, ?_, ?_⟩
    · rw [hlays.variants, if_pos hmem]
    · exact map_published?_eq (hcompiles.1 _ hmem)
    · rw [hlays.anchors, hlays.groupAfter_eq hsplit, hsplit, Supply.anchorsFrom_append,
        ← Supply.length_anchorsFrom (p := r.supply t) [], List.getElem?_append_right (Nat.le_refl _),
        Nat.sub_self]
      rfl
    · rw [hlays.groupAfter_eq hsplit]
      exact hlays.hasBlock htidy hfits hsplit

/-- Two variants stand for the first reference and, once more, for the second. -/
theorem layout_of_compile_twice :
    let w := (Definition.expression "a" "(x)").apply (withOptions ⟨.none, 2⟩, .empty)
    let v := (Definition.expression "a" "y").apply w
    let source := "(?<n>${a})-${a}"
    Reached .tidy ⟨.none, 2⟩ v.1 v.2 ∧ Tidy source ∧
      ∃ c t, (v.1.compile source).run v.2 = (.ok c, t) ∧ c.groupCount = c.groupAfter (lex source) ∧
        c.anchors.toList[1]? = some (c.groupAfter [.namedOpen .plain "n", .reference "a", .text ")-"],
          ⟨"a", 1⟩) := by
  intro w v source
  have hdefinitions : ∀ d ∈ [Definition.expression "a" "(x)", .expression "a" "y"], d.Permitted .tidy :=
    List.forall_mem_cons.2 ⟨show Tidy "(x)" by decide +kernel,
      List.forall_mem_singleton.2 (show Tidy "y" by decide +kernel)⟩
  have hreached : Reached .tidy ⟨.none, 2⟩ v.1 v.2 := reached_of_definitions _ hdefinitions
  have htidy : Tidy source := by decide +kernel
  have hok : ((v.1.compile source).run v.2).1.isOk = true := by decide +kernel
  rcases hrun : (v.1.compile source).run v.2 with ⟨e | c, t⟩
  · rw [hrun] at hok
    cases hok
  · obtain ⟨-, hcount, -, hblocks⟩ := layout_of_compile hreached htidy hrun
    refine ⟨hreached, htidy, c, t, rfl, hcount, ?_⟩
    obtain ⟨vs, -, -, -, hanchor, -⟩ :=
      hblocks [.namedOpen .plain "n", .reference "a", .text ")-"] "a" [] (by decide +kernel)
    exact hanchor

end Registry

end Patchwork
