import Patchwork.Proofs.Expansion
import Patchwork.Proofs.History

namespace Patchwork

open Compiling

namespace Registry

/-- What the registry's expressions have published is what was known for them, or else what their
sources expand to. -/
structure Memo (r : Registry) (known : Expression → Option CompiledExpression) (s : Store) : Prop where
  sits : r.Sits s
  published : ∀ e c, r.Holds e → known e = some c → s.published? e = some c
  faithful : ∀ e c, r.Holds e → s.published? e = some c →
    known e = some c ∨ known e = none ∧ ∃ n, r.expandFrom known n e.source = .ok c

variable {r : Registry} {known : Expression → Option CompiledExpression} {s : Store}

theorem Sits.memo (h : r.Sits s) : r.Memo s.published? s where
  sits := h
  published _ _ _ hc := hc
  faithful _ _ _ hc := .inl hc

theorem Memo.of_unpublished (h : r.Sits s) (hnone : ∀ e, r.Holds e → s.published? e = none) :
    r.Memo (fun _ => none) s where
  sits := h
  published e c he hc := by cases hc
  faithful e c he hc := by simp [hnone e he] at hc

theorem Memo.create (h : r.Memo known s) (source : String) : r.Memo known (s.create source).2 where
  sits := h.sits.create source
  published := h.published
  faithful := h.faithful

theorem Memo.record (h : r.Memo known s) (call : Call) : r.Memo known (s.record call) where
  sits := h.sits.record call
  published := h.published
  faithful := h.faithful

theorem Memo.publish (h : r.Memo known s) {e : Expression} {c : CompiledExpression} {n : Nat}
    (he : r.Holds e) (hnone : known e = none) (hc : r.expandFrom known n e.source = .ok c) :
    r.Memo known (s.publish e c) where
  sits := h.sits.publish (h.sits.issued e he) c
  published d b hd hb := (Store.Grows.publish s e c).published d b (h.published d b hd hb)
  faithful d b hd hb := by
    rcases Store.published?_publish_cases h.sits he hd hb with ⟨rfl, rfl⟩ | hb
    · exact .inr ⟨hnone, n, hc⟩
    · exact h.faithful d b hd hb

/-- An expression of no registry can publish what it likes. -/
theorem Memo.publish_other (h : r.Memo known s) {e : Expression} (he : e.serial < s.nextSerial)
    (hne : r.Apart e) (c : CompiledExpression) :
    r.Memo known (s.publish e c) where
  sits := h.sits.publish he c
  published d b hd hb := (Store.Grows.publish s e c).published d b (h.published d b hd hb)
  faithful d b hd hb := by
    rw [s.published?_publish_of_ne c (hne d hd)] at hb
    exact h.faithful d b hd hb

theorem Memo.unknown (h : r.Memo known s) {e : Expression} (he : r.Holds e)
    (hpub : s.published? e = none) : known e = none := by
  cases hknown : known e with
  | none => rfl
  | some c =>
      rw [h.published e c he hknown] at hpub
      cases hpub

/-- The form of an expression is the one that it has published, and no other can be compiled. -/
theorem Memo.published_of_expandFrom (h : r.Memo known s) {e : Expression} {b c : CompiledExpression}
    {n : Nat} (he : r.Holds e) (hnone : known e = none) (hc : r.expandFrom known n e.source = .ok c)
    (hb : s.published? e = some b) : b = c := by
  rcases h.faithful e b he hb with hknown | ⟨-, m, hm⟩
  · rw [hnone] at hknown
    cases hknown
  · have hlimit := expandFrom_of_ok hm n
    rw [hc] at hlimit
    split at hlimit <;> cases hlimit
    rfl

/-- The computation gives that result on every store that keeps the registry's forms, and leaves one
that does. -/
def Yields (r : Registry) (known : Expression → Option CompiledExpression) {α : Type} (x : Compiling α)
    (result : Except CompileError α) : Prop :=
  ∀ s, r.Memo known s → ∃ t, x.run s = (result, t) ∧ r.Memo known t ∧ t.nextSerial = s.nextSerial

theorem Yields.pure {α : Type} (a : α) : r.Yields known (Pure.pure a) (.ok a) :=
  fun s h => ⟨s, rfl, h, rfl⟩

theorem Yields.throw {α : Type} (e : CompileError) :
    r.Yields known (MonadExcept.throw e : Compiling α) (.error e) :=
  fun s h => ⟨s, rfl, h, rfl⟩

theorem Yields.bind {α β : Type} {x : Compiling α} {f : α → Compiling β}
    {y : Except CompileError α} {g : α → Except CompileError β} (hx : r.Yields known x y)
    (hf : ∀ a, y = .ok a → r.Yields known (f a) (g a)) : r.Yields known (x >>= f) (y >>= g) := by
  intro s hs
  obtain ⟨t, hrun, ht, hn⟩ := hx s hs
  cases y with
  | error e => exact ⟨t, run_bind_error hrun, ht, hn⟩
  | ok a =>
      obtain ⟨u, hrun', hu, hn'⟩ := hf a rfl t ht
      exact ⟨u, by rw [run_bind_ok hrun, hrun']; rfl, hu, hn'.trans hn⟩

theorem yields_spliceCall (d : Draft) (id args : String)
    (compile : Expression → Except CompileError CompiledExpression) :
    r.Yields known (spliceCall r d id args) (r.expandToken compile d (.call id args)) := by
  simp only [spliceCall, expandToken]
  cases r.function? id with
  | none => exact .throw _
  | some f =>
      dsimp only
      intro s hs
      cases f.execute (argumentsOf args) with
      | ok text => exact ⟨_, run_bind_ok (run_modify _ _), hs.record _, rfl⟩
      | error cause => exact ⟨_, run_bind_ok (run_modify _ _), hs.record _, rfl⟩

variable {compile : Expression → Compiling CompiledExpression}
  {g : Expression → Except CompileError CompiledExpression}

theorem yields_mapM (hg : ∀ e, r.Holds e → r.Yields known (compile e) (g e)) {es : List Expression}
    (hes : ∀ e ∈ es, r.Holds e) : r.Yields known (es.mapM compile) (es.mapM g) := by
  induction es with
  | nil => exact .pure []
  | cons e es ih =>
      rw [List.mapM_cons, List.mapM_cons]
      obtain ⟨he, hes⟩ := List.forall_mem_cons.1 hes
      exact (hg e he).bind fun c _ => (ih hes).bind fun cs _ => .pure (c :: cs)

theorem holds_of_resolve? {id : String} {es : List Expression} (h : r.resolve? id = some es) :
    ∀ e ∈ es, r.Holds e := by
  unfold resolve? at h
  split at h
  · cases h
  · cases h
    exact fun e he => ⟨id, he⟩

theorem yields_spliceToken (hg : ∀ e, r.Holds e → r.Yields known (compile e) (g e)) (d : Draft)
    (t : Token) : r.Yields known (spliceToken r compile d t) (r.expandToken g d t) := by
  cases t with
  | call id args => exact yields_spliceCall d id args g
  | reference id =>
      simp only [spliceToken, spliceReference, expandToken]
      cases hes : r.resolve? id with
      | none => exact .throw _
      | some es =>
          exact (yields_mapM hg (holds_of_resolve? hes)).bind fun cs _ => .pure (d.splice id cs)
  | text | escape | charClass | groupOpen | namedOpen | specialOpen => exact .pure _

theorem yields_foldlM (hg : ∀ e, r.Holds e → r.Yields known (compile e) (g e)) (ts : List Token)
    (d : Draft) : r.Yields known (ts.foldlM (spliceToken r compile) d) (ts.foldlM (r.expandToken g) d) := by
  induction ts generalizing d with
  | nil => exact .pure d
  | cons t ts ih =>
      rw [List.foldlM_cons, List.foldlM_cons]
      exact (yields_spliceToken hg d t).bind fun d' _ => ih d'

/-- A form that is found is as high as the one that would be compiled, so the limit refuses both. -/
theorem yields_reuse {n : Nat} {compile : String → Compiling CompiledExpression}
    (hc : ∀ text, r.Yields known (compile text) (r.expandFrom known n text)) (e : Expression)
    (he : r.Holds e) :
    r.Yields known (reuse r.options.maxDepth n compile e) (r.formOf known n (r.expandFrom known n) e) := by
  intro s hs
  simp only [reuse, run_bind_ok (run_get s)]
  cases hpub : s.published? e with
  | some c =>
      have hform : r.formOf known n (r.expandFrom known n) e =
          if c.height < n then .ok c else .error (.tooDeeplyNested r.options.maxDepth) := by
        simp only [formOf]
        -- whoever has published the form, the source expands to it on some number of levels
        rcases hs.faithful e c he hpub with hknown | ⟨hnone, m, hm⟩
        · rw [hknown]
        · rw [hnone]
          exact expandFrom_of_ok hm n
      refine ⟨s, ?_, hs, rfl⟩
      rw [hform]
      by_cases hlt : c.height < n
      · simp only [if_pos hlt, run_pure]
      · simp only [if_neg hlt, run_throw]
  | none =>
      have hnone := hs.unknown he hpub
      have hform : r.formOf known n (r.expandFrom known n) e = r.expandFrom known n e.source := by
        simp only [formOf, hnone]
      obtain ⟨t, hrun, ht, hn⟩ := hc e.source s hs
      rw [hform]
      cases hexp : r.expandFrom known n e.source with
      | error cause =>
          rw [hexp] at hrun
          exact ⟨t, run_bind_error hrun, ht, hn⟩
      | ok c =>
          rw [hexp] at hrun
          refine ⟨t.publish e c, ?_, ht.publish he hnone hexp, ?_⟩
          · rw [run_bind_ok hrun, run_bind_ok (run_modify _ _)]
            rfl
          · rw [Store.nextSerial_publish, hn]

theorem yields_source (n : Nat) (text : String) :
    r.Yields known (Compiling.source r n text) (r.expandFrom known n text) := by
  induction n generalizing text with
  | zero => exact .throw _
  | succ n ih =>
      refine (yields_foldlM (fun e he => yields_reuse ih e he) _ _).bind fun d _ s hs => ?_
      exact ⟨s, run_liftExcept _ s, hs, rfl⟩

end Registry

namespace Request

variable {r : Registry} {s : Store}

def results (r : Registry) : List Request → Store → List (Except CompileError CompiledExpression)
  | [], _ => []
  | q :: qs, s => ((q.compile r).run s).1 :: results r qs ((q.compile r).run s).2

theorem run_compile (q : Request) (hq : r.Knows q) (hs : r.Memo (fun _ => none) s) :
    ∃ t, (q.compile r).run s = (r.expansion q.text, t) ∧ r.Memo (fun _ => none) t := by
  have hexpansion : ∀ text, r.expandFrom (fun _ => none) (r.options.maxDepth + 1) text = r.expansion text :=
    fun text => congrFun (Registry.expandFrom_none r _) text
  cases q with
  | registered e =>
      obtain ⟨t, hrun, ht, -⟩ := Registry.yields_reuse (fun text => Registry.yields_source _ text) e hq s hs
      refine ⟨t, hrun.trans ?_, ht⟩
      simp only [Registry.formOf, hexpansion, Request.text]
  | source text =>
      -- the expression made for the source has published nothing, and nothing else refers to it
      have hfresh : (s.create text).2.published? (s.create text).1 = none :=
        Store.published?_of_fresh hs.sits (Nat.le_refl _)
      obtain ⟨t, hrun, ht, hn⟩ := Registry.yields_source (r.options.maxDepth + 1) text _ (hs.create text)
      rw [hexpansion] at hrun
      have hstep : ((source text).compile r).run s =
          ((s.create text).1.compile r).run (s.create text).2 := rfl
      rw [hstep]
      simp only [Expression.compile, reuse, run_bind_ok (run_get _), hfresh]
      cases hexp : r.expansion text with
      | error cause =>
          rw [hexp] at hrun
          exact ⟨t, (run_bind_error hrun).trans (by rw [Request.text, hexp]), ht⟩
      | ok c =>
          rw [hexp] at hrun
          refine ⟨t.publish (s.create text).1 c, ?_, ht.publish_other ?_ (fun d hd => ?_) c⟩
          · refine (run_bind_ok hrun).trans ?_
            rw [run_bind_ok (run_modify _ _), Request.text, hexp]
            rfl
          · rw [hn]
            exact Nat.lt_succ_self _
          · exact Nat.ne_of_gt (hs.sits.issued d hd)

theorem results_of_memo (qs : List Request) (hq : ∀ q ∈ qs, r.Knows q) (hs : r.Memo (fun _ => none) s) :
    results r qs s = qs.map fun q => r.expansion q.text := by
  induction qs generalizing s with
  | nil => rfl
  | cons q qs ih =>
      obtain ⟨hq₁, hqs⟩ := List.forall_mem_cons.1 hq
      obtain ⟨t, hrun, ht⟩ := q.run_compile hq₁ hs
      simp only [results, hrun, List.map_cons, ih hqs ht]

/-- However many requests have been made before, and whether they succeeded, each gives what the
expansion of its source gives. The registry may be made on a store that other expressions have
published in. -/
theorem results_eq_map_expansion {o : Options} {ds : List Definition} {s₀ s : Store} {r : Registry}
    (hissued : ∀ p ∈ s₀.published, p.1 < s₀.nextSerial)
    (hr : Registry.ofDefinitions o ds s₀ = (r, s)) (qs : List Request)
    (hq : ∀ q ∈ qs, r.Knows q) : results r qs s = qs.map fun q => r.expansion q.text := by
  have hsits := Registry.Sits.withOptions o hissued
  have hnone := Registry.unpublished_foldl_apply hsits
    (fun e he => by simp [Registry.Holds, Registry.withOptions, Registry.variants] at he) ds
  have hmemo : (Registry.ofDefinitions o ds s₀).1.Memo (fun _ => none) (Registry.ofDefinitions o ds s₀).2 :=
    .of_unpublished (hsits.foldl_apply ds) hnone
  rw [hr] at hmemo
  exact results_of_memo qs hq hmemo

/-- A chain of two references is refused under a limit of one, also after its lower part has been
compiled by itself. -/
theorem results_eq_map_expansion_chain :
    let ds : List Definition := [.expression "a" "x", .expression "b" "${a}"]
    let r := (Registry.ofDefinitions ⟨.none, 1⟩ ds .empty).1
    let qs : List Request := [.registered ⟨1, "${a}"⟩, .source "${b}"]
    (∀ q ∈ qs, r.Knows q) ∧
      results r qs (Registry.ofDefinitions ⟨.none, 1⟩ ds .empty).2 =
        qs.map fun q => r.expansion q.text := by
  refine ⟨?known, results_eq_map_expansion (by decide) rfl _ ?known⟩
  intro q hq
  simp only [List.mem_cons, List.not_mem_nil, or_false] at hq
  rcases hq with rfl | rfl
  · exact ⟨"b", by decide⟩
  · trivial

end Request

end Patchwork
