import Mathlib.Data.List.Induction
import Patchwork.Proofs.Chains

namespace Patchwork

open Token Relation

namespace Definition

def source? (id : String) : Definition → Option String
  | expression k source => if k = id then some source else none
  | function _ _ => none

def function? (id : String) : Definition → Option Fragment
  | expression _ _ => none
  | function k f => if k = id then some f else none

def sources (ds : List Definition) (id : String) : List String :=
  (ds.filterMap (source? id)).eraseDups

def lastFunction? (ds : List Definition) (id : String) : Option Fragment :=
  (ds.filterMap (function? id)).getLast?

theorem mem_sources_iff {ds : List Definition} {id source : String} :
    source ∈ sources ds id ↔ .expression id source ∈ ds := by
  rw [sources, List.mem_eraseDups, List.mem_filterMap]
  constructor
  · rintro ⟨d, hd, h⟩
    cases d with
    | expression k p =>
        simp only [source?] at h
        split at h
        · next hk =>
            cases h
            rwa [hk] at hd
        · cases h
    | function k f => cases h
  · intro h
    exact ⟨_, h, by simp [source?]⟩

theorem sources_append_of_none {d : Definition} {id : String} (h : d.source? id = none) (ds : List Definition) :
    sources (ds ++ [d]) id = sources ds id := by
  rw [sources, List.filterMap_append, List.filterMap_cons_none h, List.filterMap_nil, List.append_nil, sources]

theorem sources_append_of_some {d : Definition} {id source : String} (h : d.source? id = some source)
    (ds : List Definition) : sources (ds ++ [d]) id =
      if source ∉ sources ds id then sources ds id ++ [source] else sources ds id := by
  have hnew : [source].removeAll (ds.filterMap (source? id)) =
      if source ∉ ds.filterMap (source? id) then [source] else [] := by
    by_cases hmem : source ∈ ds.filterMap (source? id) <;>
      simp only [List.removeAll, List.filter_cons, List.elem_eq_mem, hmem] <;> rfl
  rw [sources, List.filterMap_append, List.filterMap_cons_some h, List.filterMap_nil, List.eraseDups_append, hnew]
  simp only [sources, List.mem_eraseDups]
  split
  · rfl
  · exact List.append_nil _

theorem lastFunction?_append_singleton (ds : List Definition) (d : Definition) (id : String) :
    lastFunction? (ds ++ [d]) id = (d.function? id).or (lastFunction? ds id) := by
  rw [lastFunction?, List.filterMap_append, List.getLast?_append]
  cases h : d.function? id <;> simp [h, lastFunction?]

end Definition

namespace Registry

open Definition

variable {o o' : Options} {ds ds' : List Definition} {r r' : Registry} {s s' : Store}

theorem sources_ofDefinitions (o : Options) (ds : List Definition) (s : Store) (id : String) :
    ((ofDefinitions o ds s).1.variants id).map (·.source) = sources ds id := by
  induction ds using List.reverseRecOn with
  | nil => rfl
  | append_singleton ds d ih =>
      rw [ofDefinitions, List.foldl_append]
      cases d with
      | expression k source =>
          refine (sources_add _ k source _ id).trans ?_
          rw [← ofDefinitions, ih]
          by_cases hk : k = id
          · have hsource : (expression k source).source? id = some source := if_pos hk
            rw [sources_append_of_some hsource]
            exact if_congr (and_iff_right hk) rfl rfl
          · have hnone : (expression k source).source? id = none := if_neg hk
            rw [if_neg fun h => hk h.1, sources_append_of_none hnone]
      | function k f => exact ih.trans (sources_append_of_none rfl ds).symm

theorem function?_ofDefinitions (o : Options) (ds : List Definition) (s : Store) (id : String) :
    (ofDefinitions o ds s).1.function? id = lastFunction? ds id := by
  induction ds using List.reverseRecOn with
  | nil => rfl
  | append_singleton ds d ih =>
      rw [lastFunction?_append_singleton, ← ih, ofDefinitions, List.foldl_append]
      cases d with
      | expression k source => exact function?_add _ k source _ id
      | function k f =>
          refine (function?_addFunction _ k id f).trans ?_
          by_cases hk : k = id <;> simp [Definition.function?, hk, ofDefinitions]

theorem Agree.refl (r : Registry) (source : String) : r.Agree r source :=
  ⟨fun _ _ => rfl, fun _ _ _ => rfl⟩

namespace Serves

theorem sources_eq (h : Serves o ds r s) (id : String) :
    (r.variants id).map (·.source) = sources ds id := by
  obtain ⟨s₀, rfl⟩ := h.defined
  exact sources_ofDefinitions o ds s₀ id

theorem function?_eq (h : Serves o ds r s) (id : String) : r.function? id = lastFunction? ds id := by
  obtain ⟨s₀, rfl⟩ := h.defined
  exact function?_ofDefinitions o ds s₀ id

theorem refers_iff (h : Serves o ds r s) {source target : String} :
    r.Refers source target ↔ ∃ id, .reference id ∈ lex source ∧ .expression id target ∈ ds := by
  refine exists_congr fun id => ?_
  rw [← mem_sources_iff, ← h.sources_eq, List.mem_map]
  exact ⟨fun ⟨e, hid, he⟩ => ⟨hid, e, he⟩, fun ⟨hid, e, he⟩ => ⟨e, hid, he⟩⟩

/-- What registries agree on for a source is what their definitions say of its identifiers. In what order the
definitions for different identifiers come, and how often one of an expression comes again, is no part
of it. -/
theorem agree_iff (h : Serves o ds r s) (h' : Serves o' ds' r' s') {source : String} :
    r.Agree r' source ↔
      (∀ id, .reference id ∈ lex source → sources ds' id = sources ds id) ∧
        ∀ id args, .call id args ∈ lex source → lastFunction? ds' id = lastFunction? ds id := by
  simp only [← h.sources_eq, ← h'.sources_eq, ← h.function?_eq, ← h'.function?_eq]
  exact ⟨fun ⟨hv, hf⟩ => ⟨hv, hf⟩, fun ⟨hv, hf⟩ => ⟨hv, hf⟩⟩

/-- A request depends on what its source leads to and on nothing else. Two registries with the same options
that agree on all of that answer it alike, whatever else has been put into them and in what order, and
whatever has been compiled against them. -/
theorem result_eq_of_agree (h : Serves o ds r s) (h' : Serves o ds' r' s') {q q' : Request}
    (hq : r.Knows q) (hq' : r'.Knows q') (htext : q'.text = q.text)
    (hagree : ∀ target, ReflTransGen r.Refers q.text target → r.Agree r' target) :
    ((q'.compile r').run s').1 = ((q.compile r).run s).1 := by
  have hoptions : r'.options = r.options := h'.options_eq.trans h.options_eq.symm
  have hother := expand_eq_mapError (congrArg Options.flags hoptions) hagree (o.maxDepth + 1)
  -- an error of `r` tells the limit of `r` already
  have hself := expand_eq_mapError rfl (fun target (_ : ReflTransGen r.Refers q.text target) =>
    Agree.refl r target) (o.maxDepth + 1)
  rw [h.result_eq hq, h'.result_eq hq', htext, hother, hoptions, ← hself]

/-- The second registry has the identifiers in another order, one variant twice, a function replaced, and a
source besides that refers to itself; only against the first has anything been compiled before. -/
theorem result_eq_of_agree_shuffled :
    let ds : List Definition := [.function "range" .range, .expression "a" "x",
      .expression "b" "${a}${range(1,2)}", .expression "a" "(y)"]
    let ds' : List Definition := [.expression "z" "${z}", .function "range" (.custom fun _ => .ok ""),
      .expression "b" "${a}${range(1,2)}", .expression "a" "x", .expression "a" "(y)",
      .function "range" .range, .expression "a" "x"]
    let w := ofDefinitions .standard ds .empty
    let v := ofDefinitions .standard ds' .empty
    let s := (((Request.registered ⟨1, "${a}${range(1,2)}"⟩).compile w.1).run w.2).2
    let q := Request.source "${b}"
    Serves .standard ds w.1 s ∧ Serves .standard ds' v.1 v.2 ∧
      (∀ target, ReflTransGen w.1.Refers q.text target → w.1.Agree v.1 target) ∧
        ((q.compile v.1).run v.2).1 = ((q.compile w.1).run s).1 ∧ ((q.compile w.1).run s).1.isOk := by
  intro ds ds' w v s q
  have hserves : Serves .standard ds w.1 s :=
    .compile (.define (by simp [Store.empty]) rfl) ⟨"b", by decide⟩
  have hserves' : Serves .standard ds' v.1 v.2 := .define (by simp [Store.empty]) rfl
  have hreach : ∀ target, ReflTransGen w.1.Refers q.text target →
      target ∈ ["${b}", "${a}${range(1,2)}", "x", "(y)"] := by
    intro target h
    induction h with
    | refl => decide
    | tail _ hlast _ =>
        obtain ⟨id, -, hdef⟩ := hserves.refers_iff.1 hlast
        simp only [ds, List.mem_cons, reduceCtorEq, expression.injEq, List.not_mem_nil, or_false,
          false_or] at hdef
        rcases hdef with ⟨-, rfl⟩ | ⟨-, rfl⟩ | ⟨-, rfl⟩ <;> decide
  have hall : ∀ p ∈ ["${b}", "${a}${range(1,2)}", "x", "(y)"], ∀ t ∈ lex p,
      t ∈ [.reference "b", .reference "a", .call "range" "1,2", .groupOpen, .text "x", .text "y)"] := by
    decide +kernel
  have hagree : ∀ target, ReflTransGen w.1.Refers q.text target → w.1.Agree v.1 target := by
    intro target h
    have htokens := hall target (hreach target h)
    refine (hserves.agree_iff hserves').2 ⟨fun id hid => ?_, fun id args hid => ?_⟩
    · have hmem := htokens _ hid
      simp only [List.mem_cons, reduceCtorEq, reference.injEq, List.not_mem_nil, or_false] at hmem
      rcases hmem with rfl | rfl <;> decide
    · have hmem := htokens _ hid
      simp only [List.mem_cons, reduceCtorEq, call.injEq, List.not_mem_nil, or_false, false_or] at hmem
      rw [hmem.1]
      rfl
  exact ⟨hserves, hserves', hagree, hserves.result_eq_of_agree hserves' trivial trivial rfl hagree,
    by decide +kernel⟩

end Serves

end Registry

end Patchwork
