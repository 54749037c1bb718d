import Patchwork.Proofs.Chains

namespace Patchwork

open Compiling Token Relation

/-- The compilation of an expression that has published nothing: how many levels of nesting are left for
it, and the store that it begins on. -/
structure Compilation where
  levels : Nat
  expression : Expression
  store : Store

namespace Compilation

def run (r : Registry) (k : Compilation) : Except CompileError CompiledExpression × Store :=
  (Compiling.source r k.levels k.expression.source).run k.store

def Completes (r : Registry) (k : Compilation) (c : CompiledExpression) : Prop := (k.run r).1 = .ok c

def Fails (r : Registry) (k : Compilation) : Prop := ∃ cause, (k.run r).1 = .error cause

end Compilation

namespace Request

def begin (q : Request) (s : Store) : Expression × Store :=
  match q with
  | source text => s.create text
  | registered e => (e, s)

def compilation (r : Registry) (q : Request) (s : Store) : Compilation :=
  ⟨r.options.maxDepth + 1, (q.begin s).1, (q.begin s).2⟩

end Request

namespace Registry

variable {r : Registry} {known : Expression → Option CompiledExpression} {s t : Store}

def nested (r : Registry) (n : Nat) : Expression → Compiling CompiledExpression :=
  reuse r.options.maxDepth n (Compiling.source r n)

/-- In its course, the first compilation sets about the second: it has taken in all tokens before a
reference, and all variants of the reference before one that has published nothing. -/
inductive Starts (r : Registry) : Compilation → Compilation → Prop
  | intro {n : Nat} {e e' : Expression} {s t u : Store} {before after : List Token} {id : String}
      {d : Draft} {done rest : List Expression} {cs : List CompiledExpression}
      (hlex : lex e.source = before ++ .reference id :: after)
      (hbefore : (before.foldlM (spliceToken r (r.nested n)) .empty).run s = (.ok d, t))
      (hvariants : r.variants id = done ++ e' :: rest)
      (hdone : (done.mapM (r.nested n)).run t = (.ok cs, u))
      (hnone : u.published? e' = none) : Starts r ⟨n + 1, e, s⟩ ⟨n, e', u⟩

theorem source_succ (r : Registry) (n : Nat) (text : String) :
    Compiling.source r (n + 1) text =
      (lex text).foldlM (spliceToken r (r.nested n)) .empty >>= fun d =>
        liftM (assemble r.options.flags text d) := rfl

theorem run_nested_of_published {n : Nat} {e : Expression} {c : CompiledExpression}
    (h : s.published? e = some c) :
    (r.nested n e).run s =
      (if c.height < n then .ok c else .error (.tooDeeplyNested r.options.maxDepth), s) := by
  simp only [nested, reuse, run_bind_ok (run_get s), h]
  split <;> rfl

theorem run_nested_of_unpublished {n : Nat} {e : Expression} (h : s.published? e = none) :
    (r.nested n e).run s =
      match (⟨n, e, s⟩ : Compilation).run r with
      | (.ok c, t) => (.ok c, t.publish e c)
      | (.error cause, t) => (.error cause, t) := by
  simp only [nested, reuse, run_bind_ok (run_get s), h, run_bind, Compilation.run]
  rcases (Compiling.source r n e.source).run s with ⟨_ | _, _⟩ <;> rfl

theorem resolve?_eq_some {id : String} {e : Expression} (h : e ∈ r.variants id) :
    r.resolve? id = some (r.variants id) := by
  simp only [resolve?, List.isEmpty_iff, List.ne_nil_of_mem h, if_false]

section Ends

variable {k k' : Compilation} {cause : CompileError}

theorem Starts.run_eq_error (h : r.Starts k k') (hrun : k'.run r = (.error cause, t)) :
    k.run r = (.error cause, t) := by
  cases h with
  | @intro n e e' s u v before after id d done rest cs hlex hbefore hvariants hdone hnone =>
      have hnested : (r.nested n e').run v = (.error cause, t) := by
        rw [run_nested_of_unpublished hnone, hrun]
      have hmap : ((r.variants id).mapM (r.nested n)).run u = (.error cause, t) := by
        rw [hvariants, List.mapM_append, run_bind_ok hdone, List.mapM_cons]
        exact run_bind_error (run_bind_error hnested)
      have htoken : (spliceToken r (r.nested n) d (.reference id)).run u = (.error cause, t) := by
        have hmem : e' ∈ r.variants id := by simp [hvariants]
        simp only [spliceToken, spliceReference, resolve?_eq_some hmem]
        exact run_bind_error hmap
      have hfold : ((lex e.source).foldlM (spliceToken r (r.nested n)) .empty).run s =
          (.error cause, t) := by
        rw [hlex, List.foldlM_append, run_bind_ok hbefore, List.foldlM_cons]
        exact run_bind_error htoken
      rw [Compilation.run, source_succ]
      exact run_bind_error hfold

/-- A compilation that fails ends all of those in whose course it has been set about. -/
theorem run_eq_error_of_starts (h : ReflTransGen r.Starts k k') (hrun : k'.run r = (.error cause, t)) :
    k.run r = (.error cause, t) := by
  induction h with
  | refl => exact hrun
  | tail _ hstep ih => exact ih (hstep.run_eq_error hrun)

end Ends

structure Gains (r : Registry) (known : Expression → Option CompiledExpression)
    (new : Expression → CompiledExpression → Prop) (s t : Store) : Prop where
  memo : r.Memo known t
  adds : r.Adds s t
  gained : ∀ e c, r.Holds e → t.published? e = some c → s.published? e = some c ∨ new e c

namespace Gains

variable {new new' : Expression → CompiledExpression → Prop} {u : Store}

theorem refl (h : r.Memo known s) : r.Gains known new s s := ⟨h, .refl s, fun _ _ _ hc => .inl hc⟩

theorem trans (h : r.Gains known new s t) (h' : r.Gains known new t u) : r.Gains known new s u where
  memo := h'.memo
  adds := h.adds.trans h'.adds
  gained e c he hc := by
    rcases h'.gained e c he hc with hc | hnew
    · exact h.gained e c he hc
    · exact .inr hnew

theorem imp (h : r.Gains known new s t) (hnew : ∀ e c, new e c → new' e c) :
    r.Gains known new' s t :=
  ⟨h.memo, h.adds, fun e c he hc => (h.gained e c he hc).imp_right (hnew e c)⟩

theorem bind {α β : Type} {x : Compiling α} {f : α → Compiling β}
    (hx : r.Gains known new s (x.run s).2)
    (hf : ∀ a t, x.run s = (.ok a, t) → r.Gains known new t ((f a).run t).2) :
    r.Gains known new s ((x >>= f).run s).2 := by
  rw [run_bind]
  split
  · next a t hrun =>
      rw [hrun] at hx
      exact hx.trans (hf a t hrun)
  · next cause t hrun =>
      rwa [hrun] at hx

theorem foldlM {α β : Type} {f : β → α → Compiling β} {ts : List α} {d : β} (h : r.Memo known s)
    (hstep : ∀ before token after d' t, ts = before ++ token :: after →
      (before.foldlM f d).run s = (.ok d', t) → r.Memo known t →
        r.Gains known new t ((f d' token).run t).2) :
    r.Gains known new s ((ts.foldlM f d).run s).2 := by
  induction ts generalizing d s with
  | nil => exact .refl h
  | cons token ts ih =>
      rw [List.foldlM_cons]
      have hfirst := hstep [] token ts d s rfl rfl h
      refine hfirst.bind fun d₁ t hrun => ?_
      rw [hrun] at hfirst
      refine ih hfirst.memo fun before token' after d' u hts hbefore hu => ?_
      refine hstep (token :: before) token' after d' u (congrArg _ hts) ?_ hu
      rw [List.foldlM_cons, run_bind_ok hrun, hbefore]

theorem mapM {α β : Type} {f : α → Compiling β} {es : List α} (h : r.Memo known s)
    (hstep : ∀ done e rest cs t, es = done ++ e :: rest → (done.mapM f).run s = (.ok cs, t) →
      r.Memo known t → r.Gains known new t ((f e).run t).2) :
    r.Gains known new s ((es.mapM f).run s).2 := by
  induction es generalizing s with
  | nil => exact .refl h
  | cons e es ih =>
      rw [List.mapM_cons]
      have hfirst := hstep [] e es [] s rfl rfl h
      refine hfirst.bind fun c t hrun => ?_
      rw [hrun] at hfirst
      have hrest : r.Gains known new t ((es.mapM f).run t).2 := by
        refine ih hfirst.memo fun done e' rest cs u hes hdone hu => ?_
        refine hstep (e :: done) e' rest (c :: cs) u (congrArg _ hes) ?_ hu
        rw [List.mapM_cons, run_bind_ok hrun, run_bind_ok hdone, run_pure]
      exact hrest.bind fun cs u hrun' => by
        rw [hrun'] at hrest
        exact .refl hrest.memo

end Gains

/-- The form is what a compilation has come to that was set about in the course of the first. -/
def CompletesBelow (r : Registry) (k : Compilation) (e : Expression) (c : CompiledExpression) : Prop :=
  ∃ k', TransGen r.Starts k k' ∧ k'.expression = e ∧ k'.Completes r c

theorem gains_spliceCall {new : Expression → CompiledExpression → Prop} (h : r.Memo known s) (d : Draft)
    (id args : String) : r.Gains known new s ((spliceCall r d id args).run s).2 := by
  have hrecord (call : Call) : r.Gains known new s (s.record call) :=
    ⟨h.record call, .record s call, fun _ _ _ hc => .inl hc⟩
  unfold spliceCall
  cases r.function? id with
  | none => exact .refl h
  | some f =>
      dsimp only
      rw [run_bind_ok (run_modify _ _)]
      cases f.execute (argumentsOf args) <;> exact hrecord _

theorem gains_nested {n : Nat} {e : Expression} {new : Expression → CompiledExpression → Prop}
    (hsource : r.Gains known (r.CompletesBelow ⟨n, e, s⟩) s ((⟨n, e, s⟩ : Compilation).run r).2)
    (he : r.Holds e) (h : r.Memo known s)
    (hnew : s.published? e = none → ∀ k, ReflTransGen r.Starts ⟨n, e, s⟩ k →
      ∀ c, k.Completes r c → new k.expression c) :
    r.Gains known new s ((r.nested n e).run s).2 := by
  cases hpub : s.published? e with
  | some c =>
      rw [run_nested_of_published hpub]
      exact .refl h
  | none =>
      have hbelow : r.Gains known new s ((⟨n, e, s⟩ : Compilation).run r).2 :=
        hsource.imp fun e' c ⟨k, hk, hexpr, hc⟩ => hexpr ▸ hnew hpub k hk.to_reflTransGen c hc
      rw [run_nested_of_unpublished hpub]
      rcases hrun : (⟨n, e, s⟩ : Compilation).run r with ⟨cause | c, t⟩
      · rwa [hrun] at hbelow
      · have hcompletes : (⟨n, e, s⟩ : Compilation).Completes r c := by rw [Compilation.Completes, hrun]
        rw [hrun] at hbelow
        have hyields : r.Yields known (Compiling.source r n e.source) (r.expandFrom known n e.source) :=
          yields_source n e.source
        obtain ⟨u, hyield, -, -⟩ := hyields s h
        have hexpand : r.expandFrom known n e.source = .ok c :=
          (congrArg Prod.fst hyield).symm.trans hcompletes
        refine hbelow.trans ⟨hbelow.memo.publish he (h.unknown he hpub) hexpand, .publish t he c, ?_⟩
        intro d b hd hb
        rcases Store.published?_publish_cases hbelow.memo.sits he hd hb with ⟨rfl, rfl⟩ | hb
        · exact .inr (hnew hpub _ .refl _ hcompletes)
        · exact .inl hb

/-- All that a compilation publishes are the forms of those set about in its course that complete. -/
theorem gains_run (k : Compilation) (h : r.Memo known k.store) :
    r.Gains known (r.CompletesBelow k) k.store (k.run r).2 := by
  obtain ⟨n, e, s⟩ := k
  induction n generalizing e s with
  | zero => exact .refl h
  | succ n ih =>
      -- what a variant publishes on one level less, it publishes in the course of this compilation
      have hfold : r.Gains known (r.CompletesBelow ⟨n + 1, e, s⟩) s
          (((lex e.source).foldlM (spliceToken r (r.nested n)) .empty).run s).2 := by
        refine .foldlM h fun before token after d t hlex hbefore ht => ?_
        cases token with
        | call id args => exact gains_spliceCall ht d id args
        | reference id =>
            simp only [spliceToken, spliceReference]
            cases hes : r.resolve? id with
            | none => exact .refl ht
            | some es =>
                have hvariants := eq_variants_of_resolve? hes
                have hmap : r.Gains known (r.CompletesBelow ⟨n + 1, e, s⟩) t
                    ((es.mapM (r.nested n)).run t).2 := by
                  refine .mapM ht fun done e' rest cs u hsplit hdone hu => ?_
                  have he' : r.Holds e' := ⟨id, by simp [← hvariants, hsplit]⟩
                  refine gains_nested (ih e' u hu) he' hu fun hnone k hk c hc => ?_
                  have hstarts : r.Starts ⟨n + 1, e, s⟩ ⟨n, e', u⟩ :=
                    .intro hlex hbefore (hvariants.symm.trans hsplit) hdone hnone
                  exact ⟨k, .head' hstarts hk, rfl, hc⟩
                exact hmap.bind fun cs u hrun => by
                  rw [hrun] at hmap
                  exact .refl hmap.memo
        | text | escape | charClass | groupOpen | namedOpen | specialOpen => exact .refl ht
      have hrun : (⟨n + 1, e, s⟩ : Compilation).run r =
          ((lex e.source).foldlM (spliceToken r (r.nested n)) .empty >>= fun d =>
            (liftM (assemble r.options.flags e.source d) : Compiling CompiledExpression)).run s := rfl
      rw [hrun]
      refine hfold.bind fun d t hd => ?_
      rw [hd] at hfold
      rw [run_liftExcept]
      exact .refl hfold.memo

section Levels

variable {k k' : Compilation}

theorem levels_le_of_starts (h : ReflTransGen r.Starts k k') : k'.levels ≤ k.levels := by
  induction h with
  | refl => exact Nat.le_refl _
  | tail _ hstep ih =>
      cases hstep
      exact Nat.le_of_succ_le ih

theorem Starts.memo (h : r.Starts k k') (hk : r.Memo known k.store) : r.Memo known k'.store := by
  cases h with
  | @intro n e e' s t u before after id d done rest cs hlex hbefore hvariants hdone hnone =>
      have hcompile : ∀ d, r.Holds d →
          r.Yields known (r.nested n d) (r.formOf known n (r.expandFrom known n) d) :=
        yields_reuse (yields_source n)
      obtain ⟨t', hrun, ht, -⟩ := yields_foldlM hcompile before .empty s hk
      rw [hbefore] at hrun
      obtain rfl := (Prod.mk.inj hrun).2
      have hholds : ∀ d ∈ done, r.Holds d := fun d hd => ⟨id, by simp [hvariants, hd]⟩
      obtain ⟨u', hrun, hu, -⟩ := yields_mapM hcompile hholds t ht
      rw [hdone] at hrun
      obtain rfl := (Prod.mk.inj hrun).2
      exact hu

theorem memo_of_starts (h : ReflTransGen r.Starts k k') (hk : r.Memo known k.store) :
    r.Memo known k'.store := by
  induction h with
  | refl => exact hk
  | tail _ hstep ih => exact hstep.memo ih

theorem Starts.holds (h : r.Starts k k') : r.Holds k'.expression := by
  cases h with
  | @intro _ _ _ _ _ _ _ _ id _ _ _ _ _ _ hvariants _ _ => exact ⟨id, by simp [hvariants]⟩

theorem Starts.unpublished (h : r.Starts k k') : k'.store.published? k'.expression = none := by
  cases h with
  | intro _ _ _ _ hnone => exact hnone

/-- What a compilation comes to does not depend on the store. -/
theorem run_eq_expand (h : r.Memo (fun _ => none) k.store) :
    (k.run r).1 = r.expand k.levels k.expression.source := by
  obtain ⟨t, hrun, -, -⟩ := yields_source k.levels k.expression.source k.store h
  rw [Compilation.run, hrun, expandFrom_none]

theorem expand_of_ok {n : Nat} {text : String} {c : CompiledExpression} (h : r.expand n text = .ok c)
    (m : Nat) :
    r.expand m text = if c.height < m then .ok c else .error (.tooDeeplyNested r.options.maxDepth) := by
  rw [← expandFrom_none] at h ⊢
  exact expandFrom_of_ok h m

theorem height_lt_of_expand {n : Nat} {text : String} {c : CompiledExpression}
    (h : r.expand n text = .ok c) : c.height < n := by
  have hsame := expand_of_ok h n
  rw [h] at hsame
  split at hsame
  · assumption
  · cases hsame

theorem expand_of_completes {c : CompiledExpression} (h : ReflTransGen r.Starts k k')
    (hk : r.Memo (fun _ => none) k.store) (hc : k'.Completes r c) {m : Nat} (hm : k.levels ≤ m) :
    c.height < m ∧ r.expand m k'.expression.source = .ok c := by
  have hexpand := (run_eq_expand (memo_of_starts h hk)).symm.trans hc
  have hlt := height_lt_of_expand hexpand
  have hlevels := levels_le_of_starts h
  have hheight : c.height < m := by omega
  exact ⟨hheight, by rw [expand_of_ok hexpand m, if_pos hheight]⟩

/-- An expression whose compilation fails has not been published in its course: what it would have come
to on the fewer levels left by then, it would come to on all of them. -/
theorem unpublished_of_fails (h : r.Memo (fun _ => none) k.store)
    (he : r.Holds k.expression ∨ r.Apart k.expression)
    (hnone : k.store.published? k.expression = none) (hfails : k.Fails r) :
    (k.run r).2.published? k.expression = none := by
  obtain ⟨cause, hcause⟩ := hfails
  rw [run_eq_expand h] at hcause
  have hgains := gains_run k h
  rcases he with he | hapart
  · cases hpub : (k.run r).2.published? k.expression with
    | none => rfl
    | some c =>
        rcases hgains.gained _ c he hpub with hold | ⟨k', hbelow, hexpr, hc⟩
        · rw [hnone] at hold
          cases hold
        · have hexpand := (expand_of_completes hbelow.to_reflTransGen h hc (Nat.le_refl _)).2
          rw [hexpr, hcause] at hexpand
          cases hexpand
  · rw [hgains.adds.apart _ hapart, hnone]

end Levels

end Registry

namespace Request

variable {r : Registry} {s : Store}

theorem published?_begin (q : Request) (s : Store) (e : Expression) :
    (q.begin s).2.published? e = s.published? e := by
  cases q <;> rfl

theorem memo_begin {known : Expression → Option CompiledExpression} (q : Request)
    (h : r.Memo known s) : r.Memo known (q.begin s).2 := by
  cases q with
  | source text => exact h.create text
  | registered e => exact h

theorem compile_eq_nested (q : Request) (s : Store) :
    (q.compile r).run s = (r.nested (r.options.maxDepth + 1) (q.begin s).1).run (q.begin s).2 := by
  cases q <;> rfl

theorem run_compile_of_unpublished {q : Request}
    (h : (q.begin s).2.published? (q.begin s).1 = none) :
    (q.compile r).run s =
      match (q.compilation r s).run r with
      | (.ok c, t) => (.ok c, t.publish (q.begin s).1 c)
      | (.error cause, t) => (.error cause, t) := by
  rw [compile_eq_nested]
  exact Registry.run_nested_of_unpublished h

theorem holds_or_apart {q : Request} (hq : r.Knows q) (h : r.Sits s) :
    r.Holds (q.begin s).1 ∨
      r.Apart (q.begin s).1 ∧ (q.begin s).2.published? (q.begin s).1 = none := by
  cases q with
  | registered e => exact .inl hq
  | source text =>
      refine .inr ⟨fun d hd => Nat.ne_of_gt (h.issued d hd), ?_⟩
      exact Store.published?_of_fresh h (Nat.le_refl _)

/-- Of the registry's expressions, a request publishes those alone whose compilation it completes. -/
theorem gained {known : Expression → Option CompiledExpression} {q : Request} (hq : r.Knows q)
    (h : r.Memo known s) {e : Expression} {c : CompiledExpression} (he : r.Holds e)
    (hc : ((q.compile r).run s).2.published? e = some c) :
    s.published? e = some c ∨
      ∃ k, ReflTransGen r.Starts (q.compilation r s) k ∧ k.expression = e ∧ k.Completes r c := by
  have hmemo := q.memo_begin h
  have hrun := Registry.gains_run (q.compilation r s) hmemo
  rw [← q.published?_begin s]
  rcases holds_or_apart hq h.sits with hsubject | ⟨hapart, hnone⟩
  · have hnested : r.Gains known
        (fun e c => ∃ k, ReflTransGen r.Starts (q.compilation r s) k ∧ k.expression = e ∧
          k.Completes r c) (q.begin s).2
        ((r.nested (r.options.maxDepth + 1) (q.begin s).1).run (q.begin s).2).2 :=
      Registry.gains_nested hrun hsubject hmemo fun _ k hk c hc => ⟨k, hk, rfl, hc⟩
    rw [compile_eq_nested] at hc
    exact hnested.gained e c he hc
  · have hend : ((q.compilation r s).run r).2.published? e = some c := by
      rw [run_compile_of_unpublished hnone] at hc
      rcases hend : (q.compilation r s).run r with ⟨cause | b, t⟩
      · rwa [hend] at hc
      · rw [hend] at hc
        exact (t.published?_publish_of_ne b (hapart e he)).symm.trans hc
    rcases hrun.gained e c he hend with hold | ⟨k, hk, hexpr, hcompletes⟩
    · exact .inl hold
    · exact .inr ⟨k, hk.to_reflTransGen, hexpr, hcompletes⟩

end Request

namespace Registry

namespace Serves

variable {r : Registry} {o : Options} {ds : List Definition} {s t : Store}

theorem height_le (h : Serves o ds r s) {e : Expression} {c : CompiledExpression} (he : r.Holds e)
    (hc : s.published? e = some c) : c.height ≤ o.maxDepth := by
  induction h generalizing e c with
  | define hissued hr =>
      have hsits := Sits.withOptions o hissued
      have hnone := unpublished_foldl_apply hsits
        (fun e he => by simp [Holds, withOptions, variants] at he) ds
      rw [ofDefinitions] at hr
      rw [hr] at hnone
      rw [hnone e he] at hc
      cases hc
  | @compile s h q hq ih =>
      rcases q.gained hq h.memo he hc with hold | ⟨k, hk, -, hcompletes⟩
      · exact ih he hold
      · have hlt := (expand_of_completes hk (q.memo_begin h.memo) hcompletes (Nat.le_refl _)).1
        rw [Request.compilation, h.options_eq] at hlt
        exact Nat.le_of_lt_succ hlt
  | others h _ _ hsame ih => exact ih he ((hsame e he).symm.trans hc)

theorem run_eq_error (h : Serves o ds r s) {q : Request} (hq : r.Knows q) {cause : CompileError}
    (hrun : (q.compile r).run s = (.error cause, t)) :
    (q.begin s).2.published? (q.begin s).1 = none ∧ (q.compilation r s).run r = (.error cause, t) := by
  have hnone : (q.begin s).2.published? (q.begin s).1 = none := by
    rcases q.holds_or_apart hq h.memo.sits with hsubject | ⟨-, hnone⟩
    · cases hpub : (q.begin s).2.published? (q.begin s).1 with
      | none => rfl
      | some c =>
          have hle := h.height_le hsubject ((q.published?_begin s _).symm.trans hpub)
          rw [q.compile_eq_nested, run_nested_of_published hpub, h.options_eq,
            if_pos (Nat.lt_succ_of_le hle)] at hrun
          cases hrun
    · exact hnone
  refine ⟨hnone, ?_⟩
  rw [Request.run_compile_of_unpublished hnone] at hrun
  rcases hend : (q.compilation r s).run r with ⟨cause' | c, t'⟩
  · rwa [hend] at hrun
  · rw [hend] at hrun
    cases hrun

/-- A request that fails leaves no traces but of what was completed in its course. Nothing is published for
its own expression or for any other whose compilation has failed by then, every form that was published
stays as it was, and one that is new is the form of an expression whose compilation was completed: the
form that the expression has, compiled by itself against a registry of the same contents, whatever has
been compiled against that before. -/
theorem published_of_error (h : Serves o ds r s) {q : Request} (hq : r.Knows q) {cause : CompileError}
    (hrun : (q.compile r).run s = (.error cause, t)) :
    t.published? (q.begin s).1 = none ∧
      (∀ k, ReflTransGen r.Starts (q.compilation r s) k → k.Fails r →
        t.published? k.expression = none) ∧
      (∀ e c, s.published? e = some c → t.published? e = some c) ∧
      (∀ e, r.Apart e → t.published? e = s.published? e) ∧
      ∀ e c, r.Holds e → t.published? e = some c → s.published? e = none →
        (∃ k, ReflTransGen r.Starts (q.compilation r s) k ∧ k.expression = e ∧ k.Completes r c) ∧
          ∀ (r' : Registry) (s' : Store) (q' : Request), Serves o ds r' s' → r'.Knows q' →
            q'.text = e.source → ((q'.compile r').run s').1 = .ok c := by
  obtain ⟨hnone, hfirst⟩ := h.run_eq_error hq hrun
  have hmemo : r.Memo (fun _ => none) (q.compilation r s).store := q.memo_begin h.memo
  have hgains := gains_run _ hmemo
  rw [hfirst] at hgains
  -- the failure of `k` ends the whole run, which so leaves the store that `k` left
  have hfailed : ∀ k, ReflTransGen r.Starts (q.compilation r s) k → k.Fails r →
      t.published? k.expression = none := by
    intro k hk hfails
    have hexpr : (r.Holds k.expression ∨ r.Apart k.expression) ∧
        k.store.published? k.expression = none := by
      rcases hk.cases_tail with rfl | ⟨k', -, hstep⟩
      · exact ⟨(q.holds_or_apart hq h.memo.sits).imp_right And.left, hnone⟩
      · exact ⟨.inl hstep.holds, hstep.unpublished⟩
    have hend := unpublished_of_fails (memo_of_starts hk hmemo) hexpr.1 hexpr.2 hfails
    obtain ⟨cause', hcause⟩ := hfails
    have hsame := run_eq_error_of_starts hk (Prod.ext hcause rfl)
    have hstore : t = (k.run r).2 := (Prod.mk.inj (hfirst.symm.trans hsame)).2
    rwa [hstore]
  refine ⟨hfailed _ .refl ⟨cause, congrArg Prod.fst hfirst⟩, hfailed, fun e c hc => ?_, fun e he => ?_,
    fun e c he hc hold => ?_⟩
  · exact hgains.adds.grows.published e c ((q.published?_begin s e).trans hc)
  · exact (hgains.adds.apart e he).trans (q.published?_begin s e)
  · rcases hgains.gained e c he hc with hc | ⟨k, hbelow, rfl, hcompletes⟩
    · have hnew := hc.symm.trans ((q.published?_begin s e).trans hold)
      cases hnew
    · have hk := hbelow.to_reflTransGen
      refine ⟨⟨k, hk, rfl, hcompletes⟩, fun r' s' q' h' hq' htext => ?_⟩
      obtain ⟨hlt, hexpand⟩ := expand_of_completes hk hmemo hcompletes (Nat.le_refl _)
      rw [Request.compilation, h.options_eq] at hlt hexpand
      have hown : (((Request.registered k.expression).compile r).run s).1 = .ok c :=
        (h.result_eq (q := .registered k.expression) he).trans hexpand
      rw [h.result_of_ok h' rfl (q := .registered k.expression) he hq' htext hown,
        if_pos (Nat.le_of_lt_succ hlt)]

/-- The first reference of the source has been compiled when the second is found missing. -/
theorem published_of_error_missing :
    let ds : List Definition := [.expression "a" "x", .expression "b" "${a}${c}"]
    let w := ofDefinitions ⟨.none, 2⟩ ds .empty
    let q := Request.registered ⟨1, "${a}${c}"⟩
    ∃ t c, Serves ⟨.none, 2⟩ ds w.1 w.2 ∧ w.1.Knows q ∧
      (q.compile w.1).run w.2 = (.error (.missingExpression "c"), t) ∧
        t.published? ⟨1, "${a}${c}"⟩ = none ∧ t.published? ⟨0, "x"⟩ = some c ∧
          (((Request.source "x").compile w.1).run w.2).1 = .ok c := by
  intro ds w q
  have hserves : Serves ⟨.none, 2⟩ ds w.1 w.2 := .define (by simp [Store.empty]) rfl
  have hknows : w.1.Knows q := ⟨"b", by decide⟩
  have hholds : w.1.Holds ⟨0, "x"⟩ := ⟨"a", by decide⟩
  have hcause : ((q.compile w.1).run w.2).1.map (fun _ => ()) = .error (.missingExpression "c") := by
    decide +kernel
  have hpub : (((q.compile w.1).run w.2).2.published? ⟨0, "x"⟩).isSome = true := by decide +kernel
  rcases hrun : (q.compile w.1).run w.2 with ⟨cause | _, t⟩
  · rw [hrun] at hcause hpub
    obtain rfl : cause = .missingExpression "c" := Except.error.inj hcause
    obtain ⟨c, hc⟩ := Option.isSome_iff_exists.1 hpub
    obtain ⟨hnone, -, -, -, hnew⟩ := hserves.published_of_error hknows hrun
    obtain ⟨-, hagain⟩ := hnew _ c hholds hc (by decide +kernel)
    exact ⟨t, c, hserves, hknows, rfl, hnone, hc, hagain _ _ (.source "x") hserves trivial rfl⟩
  · rw [hrun] at hcause
    cases hcause

end Serves

end Registry

end Patchwork
