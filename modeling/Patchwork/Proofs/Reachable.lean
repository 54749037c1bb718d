import Patchwork.Proofs.Memoisation
import Patchwork.Proofs.Woven

namespace Patchwork

open Compiling

def Definition.Permitted (kind : Kind) : Definition → Prop
  | expression _ source => kind.source source
  | function _ f => kind.function f

namespace Registry

/-- The registry's expressions and functions are of that kind, no two variants have one source, and what
its expressions have published has been woven from their sources. -/
structure Keeps (kind : Kind) (r : Registry) (s : Store) : Prop where
  sits : r.Sits s
  sources : ∀ e, r.Holds e → kind.source e.source
  distinct : ∀ id, (r.variants id).Pairwise (·.source ≠ ·.source)
  functions : ∀ id f, r.function? id = some f → kind.function f
  woven : ∀ e c, r.Holds e → s.published? e = some c → c.Woven kind ∧ c.source = e.source

namespace Keeps

variable {kind : Kind} {r : Registry} {s t : Store}

theorem start (o : Options) (h : ∀ p ∈ s.published, p.1 < s.nextSerial) :
    (withOptions o).Keeps kind s where
  sits := .withOptions o h
  sources e he := by simp [Holds, withOptions, variants] at he
  distinct id := by simp [withOptions, variants]
  functions id f hf := by simp [withOptions, function?] at hf
  woven e c he := by simp [Holds, withOptions, variants] at he

theorem create (h : r.Keeps kind s) (source : String) : r.Keeps kind (s.create source).2 where
  sits := h.sits.create source
  sources := h.sources
  distinct := h.distinct
  functions := h.functions
  woven := h.woven

theorem record (h : r.Keeps kind s) (call : Call) : r.Keeps kind (s.record call) where
  sits := h.sits.record call
  sources := h.sources
  distinct := h.distinct
  functions := h.functions
  woven := h.woven

theorem publish (h : r.Keeps kind s) {e : Expression} (he : r.Holds e) {c : CompiledExpression}
    (hc : c.Woven kind ∧ c.source = e.source) : r.Keeps kind (s.publish e c) where
  sits := h.sits.publish (h.sits.issued e he) c
  sources := h.sources
  distinct := h.distinct
  functions := h.functions
  woven d b hd hb := by
    rcases Store.published?_publish_cases h.sits he hd hb with ⟨rfl, rfl⟩ | hb
    · exact hc
    · exact h.woven d b hd hb

/-- Others may use the store too. What they publish for the registry's expressions is to be woven. -/
theorem of_published (h : r.Keeps kind s) (hserial : s.nextSerial ≤ t.nextSerial)
    (hissued : ∀ p ∈ t.published, p.1 < t.nextSerial)
    (hwoven : ∀ e c, r.Holds e → t.published? e = some c →
      s.published? e = some c ∨ c.Woven kind ∧ c.source = e.source) : r.Keeps kind t where
  sits := ⟨fun e he => Nat.lt_of_lt_of_le (h.sits.issued e he) hserial, h.sits.distinct, hissued⟩
  sources := h.sources
  distinct := h.distinct
  functions := h.functions
  woven e c he hc := (hwoven e c he hc).elim (h.woven e c he) id

theorem publish_other (h : r.Keeps kind s) {e : Expression} (he : e.serial < s.nextSerial)
    (hne : r.Apart e) (c : CompiledExpression) : r.Keeps kind (s.publish e c) :=
  h.of_published (Nat.le_of_eq (s.nextSerial_publish e c).symm) (h.sits.publish he c).published
    fun d _ hd hb => .inl ((s.published?_publish_of_ne c (hne d hd)).symm.trans hb)

theorem apply (h : r.Keeps kind s) {d : Definition} (hd : d.Permitted kind) :
    (d.apply (r, s)).1.Keeps kind (d.apply (r, s)).2 := by
  cases d with
  | function id f =>
      refine ⟨h.sits.apply (.function id f), h.sources, h.distinct, fun k g hg => ?_, h.woven⟩
      simp only [Definition.apply, function?_addFunction] at hg
      split at hg
      · cases hg
        exact hd
      · exact h.functions k g hg
  | expression id source =>
      have hsits := h.sits.apply (.expression id source)
      simp only [Definition.apply] at hsits ⊢
      rcases r.add_cases id source s with heq | ⟨hs, hnew, hv⟩
      · rw [heq]
        exact h
      -- a source that was not there is the only expression that the registry gains
      · have hold : ∀ e, (r.add id source s).2.1.Holds e → r.Holds e ∨ e = (s.create source).1 := by
          rintro e ⟨k, hk⟩
          rw [hv k] at hk
          split at hk
          · exact (List.mem_append.1 hk).imp (fun hk => ⟨id, hk⟩) List.mem_singleton.1
          · exact .inl ⟨k, hk⟩
        refine ⟨hsits, fun e he => ?_, fun k => ?_, fun k f hf => ?_, fun e c he hc => ?_⟩
        · rcases hold e he with he | rfl
          · exact h.sources e he
          · exact hd
        · rw [hv k]
          split
          · rw [List.pairwise_append]
            refine ⟨h.distinct id, List.pairwise_singleton _ _, fun e he e' he' => ?_⟩
            rw [List.mem_singleton.1 he']
            exact hnew e he
          · exact h.distinct k
        · rw [function?_add] at hf
          exact h.functions k f hf
        · rw [hs, Store.published?_create] at hc
          rcases hold e he with he | rfl
          · exact h.woven e c he hc
          · rw [Store.published?_of_fresh h.sits (Nat.le_refl _)] at hc
            cases hc

end Keeps

def supply (r : Registry) (t : Store) : Supply where
  variants id := (r.variants id).filterMap t.published?
  output id args := ((r.function? id).bind fun f => (f.execute (argumentsOf args)).toOption).getD ""

def Ready (r : Registry) (t : Store) : Token → Prop
  | .reference id => r.variants id ≠ [] ∧ ∀ e ∈ r.variants id, (t.published? e).isSome
  | .call id args => ∃ f text, r.function? id = some f ∧ f.execute (argumentsOf args) = .ok text
  | _ => True

variable {kind : Kind} {known : Expression → Option CompiledExpression} {r : Registry}
  {s t : Store}

theorem Ready.grow {k : Token} (h : r.Ready s k) (hgrows : s.Grows t) : r.Ready t k := by
  cases k with
  | reference id =>
      refine ⟨h.1, fun e he => ?_⟩
      obtain ⟨c, hc⟩ := Option.isSome_iff_exists.1 (h.2 e he)
      rw [hgrows.published e c hc]
      rfl
  | call id args => exact h
  | text | escape | charClass | groupOpen | namedOpen | specialOpen => trivial

theorem Ready.take_eq {k : Token} (h : r.Ready s k) (hgrows : s.Grows t) (d : Draft) :
    (r.supply t).take d k = (r.supply s).take d k := by
  cases k with
  | reference id =>
      have hforms : (r.variants id).map t.published? = (r.variants id).map s.published? := by
        refine List.map_congr_left fun e he => ?_
        obtain ⟨c, hc⟩ := Option.isSome_iff_exists.1 (h.2 e he)
        rw [hc, hgrows.published e c hc]
      have hsame : (r.variants id).filterMap t.published? = (r.variants id).filterMap s.published? := by
        simpa [List.filterMap_map, Function.comp_def] using congrArg (List.filterMap fun x => x) hforms
      simp only [Supply.take, supply, hsame]
  | call id args => rfl
  | text | escape | charClass | groupOpen | namedOpen | specialOpen => rfl

theorem foldl_take_eq {ts : List Token} (h : ∀ k ∈ ts, r.Ready s k) (hgrows : s.Grows t) (d : Draft) :
    ts.foldl (r.supply t).take d = ts.foldl (r.supply s).take d := by
  induction ts generalizing d with
  | nil => rfl
  | cons k ks ih =>
      obtain ⟨hk, hks⟩ := List.forall_mem_cons.1 h
      rw [List.foldl_cons, List.foldl_cons, hk.take_eq hgrows, ih hks]

theorem map_published?_eq {id : String} (h : r.Ready s (.reference id)) :
    (r.variants id).map s.published? = ((r.supply s).variants id).map some := by
  have hsome := h.2
  simp only [supply]
  generalize r.variants id = es at hsome ⊢
  induction es with
  | nil => rfl
  | cons e es ih =>
      obtain ⟨he, hes⟩ := List.forall_mem_cons.1 hsome
      obtain ⟨c, hc⟩ := Option.isSome_iff_exists.1 he
      rw [List.map_cons, hc, ih hes, List.filterMap_cons_some hc]
      rfl

theorem Keeps.offers (h : r.Keeps kind s) {ts : List Token} (hready : ∀ k ∈ ts, r.Ready s k) :
    (r.supply s).Offers (CompiledExpression.Woven kind) kind.function ts := by
  have hmem : ∀ id, ∀ v ∈ (r.supply s).variants id,
      ∃ e ∈ r.variants id, s.published? e = some v := fun id v hv => by simpa [supply] using hv
  refine ⟨fun id hid => ?_, fun id hid => ?_, fun id hid v hv => ?_, fun id args hid => ?_⟩
  · intro hnil
    have hforms := map_published?_eq (hready _ hid)
    rw [hnil] at hforms
    exact (hready _ hid).1 (List.map_eq_nil_iff.1 hforms)
  · refine List.pairwise_filterMap.2 ((h.distinct id).imp_of_mem ?_)
    intro e d he hd hne v hv u hu
    rwa [(h.woven e v ⟨id, he⟩ hv).2, (h.woven d u ⟨id, hd⟩ hu).2]
  · obtain ⟨e, he, hpub⟩ := hmem id v hv
    exact (h.woven e v ⟨id, he⟩ hpub).1
  · obtain ⟨f, text, hf, htext⟩ := hready _ hid
    refine ⟨f, h.functions id f hf, ?_⟩
    simp only [supply, hf, Option.bind_some, htext]
    rfl

theorem Keeps.woven_of_assemble (h : r.Keeps kind s) {source : String} (hkind : kind.source source)
    (hready : ∀ k ∈ Token.lex source, r.Ready s k) {flags : ModeFlags} {c : CompiledExpression}
    (hc : assemble flags source ((r.supply s).draft (Token.lex source)) = .ok c) : c.Woven kind := by
  have hoffers := h.offers hready
  exact .intro hkind hoffers.nonempty hoffers.distinct hoffers.good hoffers.called hc

/-- Whatever the computation gives, the registry is kept, and its expressions alone have published; and
a value that it yields has that property in the store that is left. -/
def Ensures (kind : Kind) (known : Expression → Option CompiledExpression) (r : Registry)
    {α : Type} (x : Compiling α) (post : Store → α → Prop) : Prop :=
  ∀ s, r.Keeps kind s → r.Memo known s → ∃ result t, x.run s = (result, t) ∧
    (r.Keeps kind t ∧ r.Memo known t ∧ r.Adds s t) ∧ ∀ a, result = .ok a → post t a

theorem Ensures.pure {α : Type} {a : α} {post : Store → α → Prop} (h : ∀ t, post t a) :
    r.Ensures kind known (Pure.pure a) post :=
  fun s hs hm => ⟨_, s, rfl, ⟨hs, hm, .refl s⟩, fun b hb => by cases hb; exact h s⟩

theorem Ensures.throw {α : Type} (e : CompileError) (post : Store → α → Prop) :
    r.Ensures kind known (MonadExcept.throw e : Compiling α) post :=
  fun s hs hm => ⟨_, s, rfl, ⟨hs, hm, .refl s⟩, fun b hb => by cases hb⟩

theorem Ensures.bind {α β : Type} {x : Compiling α} {f : α → Compiling β} {pre : Store → α → Prop}
    {post : Store → β → Prop} (hx : r.Ensures kind known x pre)
    (hf : ∀ a, r.Ensures kind known (f a) fun u b => ∀ t, t.Grows u → pre t a → post u b) :
    r.Ensures kind known (x >>= f) post := by
  intro s hs hm
  obtain ⟨result, t, hrun, ⟨ht, hmt, hadds⟩, hpre⟩ := hx s hs hm
  cases result with
  | error e => exact ⟨_, t, run_bind_error hrun, ⟨ht, hmt, hadds⟩, fun b hb => by cases hb⟩
  | ok a =>
      obtain ⟨result, u, hrun', ⟨hu, hmu, hadds'⟩, hpost⟩ := hf a t ht hmt
      refine ⟨result, u, by rw [run_bind_ok hrun, hrun'], ⟨hu, hmu, hadds.trans hadds'⟩, ?_⟩
      exact fun b hb => hpost b hb t hadds'.grows (hpre a rfl)

theorem Ensures.imp {α : Type} {x : Compiling α} {pre post : Store → α → Prop}
    (hx : r.Ensures kind known x pre) (h : ∀ t a, pre t a → post t a) :
    r.Ensures kind known x post := by
  intro s hs hm
  obtain ⟨result, t, hrun, ht, hpre⟩ := hx s hs hm
  exact ⟨result, t, hrun, ht, fun a ha => h t a (hpre a ha)⟩

theorem ensures_spliceCall (d : Draft) (id args : String) :
    r.Ensures kind known (spliceCall r d id args)
      fun t d' => r.Ready t (.call id args) ∧ d' = (r.supply t).take d (.call id args) := by
  simp only [spliceCall]
  cases hf : r.function? id with
  | none => exact .throw _ _
  | some f =>
      intro s hs hm
      dsimp only
      rw [run_bind_ok (run_modify _ _)]
      cases htext : f.execute (argumentsOf args) with
      | error cause => exact ⟨_, _, rfl, ⟨hs.record _, hm.record _, .record s _⟩, fun b hb => by cases hb⟩
      | ok text =>
          refine ⟨_, _, rfl, ⟨hs.record _, hm.record _, .record s _⟩, fun b hb => ?_⟩
          cases hb
          refine ⟨⟨f, text, hf, htext⟩, ?_⟩
          simp [Supply.take, supply, hf, htext, Except.toOption]

variable {compile : Expression → Compiling CompiledExpression}

theorem ensures_mapM {es : List Expression}
    (h : ∀ e ∈ es, r.Ensures kind known (compile e) fun t c => t.published? e = some c) :
    r.Ensures kind known (es.mapM compile) fun t cs => es.map t.published? = cs.map some := by
  induction es with
  | nil => exact .pure fun t => rfl
  | cons e es ih =>
      obtain ⟨he, hes⟩ := List.forall_mem_cons.1 h
      rw [List.mapM_cons]
      refine he.bind fun c => (ih hes).bind fun cs => .pure fun v t htv hcs u huv hc => ?_
      rw [List.map_cons, List.map_cons, huv.published e c hc, htv.map_published? hcs]

theorem ensures_spliceReference (d : Draft) (id : String)
    (h : ∀ e, r.Holds e → r.Ensures kind known (compile e) fun t c => t.published? e = some c) :
    r.Ensures kind known (spliceReference r compile d id)
      fun t d' => r.Ready t (.reference id) ∧ d' = (r.supply t).take d (.reference id) := by
  simp only [spliceReference, resolve?]
  by_cases hempty : (r.variants id).isEmpty
  · rw [if_pos hempty]
    exact .throw _ _
  · rw [if_neg hempty]
    have hne : r.variants id ≠ [] := fun h => hempty (by rw [h]; rfl)
    refine (ensures_mapM fun e he => h e ⟨id, he⟩).bind fun cs => .pure fun u t htu hcs => ?_
    have hready : r.Ready u (.reference id) := by
      refine ⟨hne, fun e he => ?_⟩
      have hmem := List.mem_map_of_mem (f := u.published?) he
      rw [htu.map_published? hcs] at hmem
      obtain ⟨c, -, hc⟩ := List.mem_map.1 hmem
      rw [← hc]
      rfl
    have hforms := map_published?_eq hready
    rw [htu.map_published? hcs] at hforms
    have hsome : Function.Injective (some : CompiledExpression → _) := fun _ _ => Option.some.inj
    refine ⟨hready, ?_⟩
    rw [Supply.take, (List.map_inj_right fun _ _ => Option.some.inj).1 hforms]

theorem ensures_spliceToken (d : Draft) (k : Token)
    (h : ∀ e, r.Holds e → r.Ensures kind known (compile e) fun t c => t.published? e = some c) :
    r.Ensures kind known (spliceToken r compile d k)
      fun t d' => r.Ready t k ∧ d' = (r.supply t).take d k := by
  cases k with
  | call id args => exact ensures_spliceCall d id args
  | reference id => exact ensures_spliceReference d id h
  | text | escape | charClass | groupOpen | namedOpen | specialOpen =>
      exact .pure fun t => ⟨trivial, rfl⟩

theorem ensures_foldlM (ts : List Token) (d : Draft)
    (h : ∀ e, r.Holds e → r.Ensures kind known (compile e) fun t c => t.published? e = some c) :
    r.Ensures kind known (ts.foldlM (spliceToken r compile) d)
      fun t d' => (∀ k ∈ ts, r.Ready t k) ∧ d' = ts.foldl (r.supply t).take d := by
  induction ts generalizing d with
  | nil => exact .pure fun t => ⟨by simp, rfl⟩
  | cons k ts ih =>
      rw [List.foldlM_cons]
      refine (ensures_spliceToken d k h).bind fun d₁ => (ih d₁).imp fun u d' hd' t htu hd₁ => ?_
      obtain ⟨hready, rfl⟩ := hd₁
      refine ⟨List.forall_mem_cons.2 ⟨hready.grow htu, hd'.1⟩, ?_⟩
      rw [List.foldl_cons, hready.take_eq htu]
      exact hd'.2

def Compiles (r : Registry) (source : String) (t : Store) (c : CompiledExpression) : Prop :=
  (∀ k ∈ Token.lex source, r.Ready t k) ∧
    assemble r.options.flags source ((r.supply t).draft (Token.lex source)) = .ok c

theorem Compiles.source_eq {source : String} {c : CompiledExpression} (h : r.Compiles source t c) :
    c.source = source := by
  obtain ⟨_, _, -, -, -, rfl⟩ := assemble_eq_ok h.2
  rfl

theorem ensures_reuse {n : Nat} {compile : String → Compiling CompiledExpression}
    (hc : ∀ source, r.Ensures kind known (compile source) (r.Compiles source))
    (hyields : ∀ source, r.Yields known (compile source) (r.expandFrom known n source))
    (e : Expression) (he : r.Holds e) :
    r.Ensures kind known (reuse r.options.maxDepth n compile e) fun t c => t.published? e = some c := by
  intro s hs hm
  simp only [reuse, run_bind_ok (run_get s)]
  cases hpub : s.published? e with
  | some c =>
      by_cases hlt : c.height < n
      · simp only [if_pos hlt]
        exact ⟨_, s, rfl, ⟨hs, hm, .refl s⟩, fun b hb => by cases hb; exact hpub⟩
      · simp only [if_neg hlt]
        exact ⟨_, s, rfl, ⟨hs, hm, .refl s⟩, fun b hb => by cases hb⟩
  | none =>
      have hnone : known e = none := hm.unknown he hpub
      obtain ⟨result, t, hrun, ⟨ht, hmt, hadds⟩, hpost⟩ := hc e.source s hs hm
      cases result with
      | error cause => exact ⟨_, t, run_bind_error hrun, ⟨ht, hmt, hadds⟩, fun b hb => by cases hb⟩
      | ok c =>
          have hcompiles := hpost c rfl
          have hwoven := ht.woven_of_assemble (ht.sources e he) hcompiles.1 hcompiles.2
          have hexp : r.expandFrom known n e.source = .ok c := by
            obtain ⟨u, hrun', -⟩ := hyields e.source s hm
            exact (Prod.mk.inj (hrun'.symm.trans hrun)).1
          refine ⟨.ok c, t.publish e c, ?_, ⟨?_, ?_, ?_⟩, ?_⟩
          · rw [run_bind_ok hrun, run_bind_ok (run_modify _ _)]
            rfl
          · exact ht.publish he ⟨hwoven, hcompiles.source_eq⟩
          · exact hmt.publish he hnone hexp
          · exact hadds.trans (.publish t he c)
          · rintro b hb
            cases hb
            -- a form published on the way is this one
            rw [t.published?_publish_self]
            cases hb : t.published? e with
            | none => rfl
            | some b => rw [hmt.published_of_expandFrom he hnone hexp hb, Option.getD_some]

theorem ensures_source (n : Nat) (source : String) :
    r.Ensures kind known (Compiling.source r n source) (r.Compiles source) := by
  induction n generalizing source with
  | zero => exact .throw _ _
  | succ n ih =>
      have hreuse := fun e he => ensures_reuse ih (yields_source n) e he
      refine (ensures_foldlM _ _ hreuse).bind fun d s hs hm => ?_
      refine ⟨_, s, run_liftExcept _ s, ⟨hs, hm, .refl s⟩, fun c hc t hgrows hd => ?_⟩
      obtain ⟨hready, rfl⟩ := hd
      refine ⟨fun k hk => (hready k hk).grow hgrows, ?_⟩
      rw [Supply.draft, foldl_take_eq hready hgrows]
      exact hc

theorem Keeps.run_compile_other (h : r.Keeps kind s) {e : Expression} (he : e.serial < s.nextSerial)
    (hne : r.Apart e) (hfresh : s.published? e = none) :
    ∃ result t, (e.compile r).run s = (result, t) ∧ r.Keeps kind t ∧ s.Grows t ∧
      (∀ d, r.Apart d → e.serial ≠ d.serial → t.published? d = s.published? d) ∧
      (∀ c, t.published? e = some c → result = .ok c) ∧ ∀ c, result = .ok c → r.Compiles e.source t c := by
  obtain ⟨result, t, hrun, ⟨ht, -, hadds⟩, hpost⟩ :=
    ensures_source (r.options.maxDepth + 1) e.source s h h.sits.memo
  have hnone : t.published? e = none := (hadds.apart e hne).trans hfresh
  simp only [Expression.compile, reuse, run_bind_ok (run_get s), hfresh]
  cases result with
  | error cause =>
      refine ⟨_, t, run_bind_error hrun, ht, hadds.grows, fun d hd _ => hadds.apart d hd, fun c hc => ?_,
        fun c hc => by cases hc⟩
      rw [hnone] at hc
      cases hc
  | ok c =>
      have hgrows := Store.Grows.publish t e c
      refine ⟨.ok c, t.publish e c, ?_, ht.publish_other ?_ hne c, hadds.grows.trans hgrows,
        fun d hd hed => ?_, fun b hb => ?_, ?_⟩
      · refine (run_bind_ok hrun).trans ?_
        rw [run_bind_ok (run_modify _ _)]
        rfl
      · rw [← hadds.grows.nextSerial]
        exact he
      · rw [t.published?_publish_of_ne c hed, hadds.apart d hd]
      · rw [t.published?_publish_self, hnone, Option.getD_none] at hb
        rw [Option.some.inj hb]
      · rintro b hb
        cases hb
        obtain ⟨hready, hassemble⟩ := hpost c rfl
        refine ⟨fun k hk => (hready k hk).grow hgrows, ?_⟩
        rw [Supply.draft, foldl_take_eq hready hgrows]
        exact hassemble

theorem Keeps.run_compile_source (h : r.Keeps kind s) (source : String) :
    ∃ result t, (r.compile source).run s = (result, t) ∧ r.Keeps kind t ∧
      ∀ c, result = .ok c → r.Compiles source t c := by
  have hfresh : (s.create source).2.published? (s.create source).1 = none :=
    Store.published?_of_fresh h.sits (Nat.le_refl _)
  obtain ⟨result, t, hrun, ht, -, -, -, hpost⟩ := (h.create source).run_compile_other
    (Nat.lt_succ_self _) (fun d hd => (Nat.ne_of_lt (h.sits.issued d hd)).symm) hfresh
  exact ⟨result, t, hrun, ht, hpost⟩

theorem Keeps.run_compile (h : r.Keeps kind s) {q : Request} (hq : r.Knows q) :
    r.Keeps kind ((q.compile r).run s).2 := by
  cases q with
  | source text =>
      obtain ⟨result, t, hrun, ht, -⟩ := h.run_compile_source text
      have hstep : ((Request.source text).compile r).run s = (result, t) := hrun
      rw [hstep]
      exact ht
  | registered e =>
      obtain ⟨result, t, hrun, ⟨ht, -, -⟩, -⟩ :=
        ensures_reuse (fun text => ensures_source _ text) (fun text => yields_source _ text) e hq s h
          h.sits.memo
      have hstep : ((Request.registered e).compile r).run s = (result, t) := hrun
      rw [hstep]
      exact ht

theorem run_compile_of_published {e : Expression} {c : CompiledExpression} (h : s.published? e = some c) :
    ((e.compile r).run s).2 = s := by
  simp only [Expression.compile, reuse, run_bind_ok (run_get s), h]
  split <;> rfl

/-- An expression of another registry can be compiled against this one. -/
theorem Keeps.compile_other (h : r.Keeps kind s) {e : Expression} (he : e.serial < s.nextSerial)
    (hne : r.Apart e) : r.Keeps kind ((e.compile r).run s).2 := by
  cases hpub : s.published? e with
  | some c =>
      rw [run_compile_of_published hpub]
      exact h
  | none =>
      obtain ⟨result, t, hrun, ht, -⟩ := h.run_compile_other he hne hpub
      rw [hrun]
      exact ht

/-- An expression of this registry can be compiled against another. -/
theorem Keeps.compile_elsewhere {r' : Registry} (h : r.Keeps kind s) (h' : r'.Keeps kind s)
    (hne : ∀ d, r.Holds d → r'.Apart d) {e : Expression} (he : r.Holds e) :
    r.Keeps kind ((e.compile r').run s).2 := by
  cases hpub : s.published? e with
  | some c =>
      rw [run_compile_of_published hpub]
      exact h
  | none =>
      obtain ⟨result, t, hrun, ht, hgrows, hsame, honly, hcompiles⟩ :=
        h'.run_compile_other (h.sits.issued e he) (hne e he) hpub
      rw [hrun]
      refine h.of_published (Nat.le_of_eq hgrows.nextSerial) ht.sits.published fun d c hd hc => ?_
      by_cases hed : e.serial = d.serial
      · obtain rfl := h.sits.distinct e d he hd hed
        obtain ⟨hready, hassemble⟩ := hcompiles c (honly c hc)
        have hwoven := ht.woven_of_assemble (h.sources e he) hready hassemble
        exact .inr ⟨hwoven, Compiles.source_eq ⟨hready, hassemble⟩⟩
      · exact .inl ((hsame d (hne d hd) hed).symm.trans hc)

/-- The registries that come about by definitions of that kind and by compilations, in any order, with
the stores that are left. An expression can be compiled against another registry than its own. Others may
use the store, as long as they leave alone what belongs to the registry's expressions. -/
inductive Reached (kind : Kind) : Options → Registry → Store → Prop where
  | start {o : Options} {s : Store} (h : ∀ p ∈ s.published, p.1 < s.nextSerial) :
      Reached kind o (withOptions o) s
  | define {o : Options} {r : Registry} {s : Store} (h : Reached kind o r s) {d : Definition}
      (hd : d.Permitted kind) : Reached kind o (d.apply (r, s)).1 (d.apply (r, s)).2
  | compile {o : Options} {r : Registry} {s : Store} (h : Reached kind o r s) {q : Request}
      (hq : r.Knows q) : Reached kind o r ((q.compile r).run s).2
  | compileOther {o : Options} {r : Registry} {s : Store} (h : Reached kind o r s) {e : Expression}
      (he : e.serial < s.nextSerial) (hne : r.Apart e) : Reached kind o r ((e.compile r).run s).2
  | compileElsewhere {o o' : Options} {r r' : Registry} {s : Store} (h : Reached kind o r s)
      (h' : Reached kind o' r' s) (hne : ∀ d, r.Holds d → r'.Apart d) {e : Expression} (he : r.Holds e) :
      Reached kind o r ((e.compile r').run s).2
  | others {o : Options} {r : Registry} {s t : Store} (h : Reached kind o r s)
      (hserial : s.nextSerial ≤ t.nextSerial) (hissued : ∀ p ∈ t.published, p.1 < t.nextSerial)
      (hsame : ∀ e, r.Holds e → t.published? e = s.published? e) : Reached kind o r t

theorem reached_of_definitions (o : Options) {ds : List Definition} (h : ∀ d ∈ ds, d.Permitted kind) :
    Reached kind o (ds.foldl (fun p d => d.apply p) (withOptions o, .empty)).1
      (ds.foldl (fun p d => d.apply p) (withOptions o, .empty)).2 := by
  have hfold : ∀ {ds : List Definition} {p : Registry × Store}, (∀ d ∈ ds, d.Permitted kind) →
      Reached kind o p.1 p.2 →
        Reached kind o (ds.foldl (fun p d => d.apply p) p).1 (ds.foldl (fun p d => d.apply p) p).2 := by
    intro ds
    induction ds with
    | nil => exact fun _ hp => hp
    | cons d ds ih =>
        intro p h hp
        obtain ⟨hd, hds⟩ := List.forall_mem_cons.1 h
        exact ih hds (hp.define hd)
  exact hfold h (.start (by simp [Store.empty]))

theorem Reached.keeps {o : Options} (h : Reached kind o r s) : r.Keeps kind s := by
  induction h with
  | start h => exact .start _ h
  | define _ hd ih => exact ih.apply hd
  | compile _ hq ih => exact ih.run_compile hq
  | compileOther _ he hne ih => exact ih.compile_other he hne
  | compileElsewhere _ _ hne he ih ih' => exact ih.compile_elsewhere ih' hne he
  | others _ hserial hissued hsame ih =>
      exact ih.of_published hserial hissued fun e c he hc => .inl ((hsame e he).symm.trans hc)

theorem Reached.woven_of_compile {o : Options} (h : Reached kind o r s) {source : String}
    (hkind : kind.source source) {c : CompiledExpression} (hc : (r.compile source).run s = (.ok c, t)) :
    c.Woven kind := by
  obtain ⟨result, u, hrun, hkeeps, hcompiles⟩ := h.keeps.run_compile_source source
  rw [hc] at hrun
  obtain ⟨rfl, rfl⟩ := Prod.mk.inj hrun
  obtain ⟨hready, hassemble⟩ := hcompiles c rfl
  exact hkeeps.woven_of_assemble hkind hready hassemble

end Registry

end Patchwork
