import Mathlib.Data.List.Chain
import Mathlib.Logic.Relation
import Patchwork.Proofs.Memoisation

namespace Patchwork

open Compiling Token Relation

def CompileError.limited (limit : Nat) : CompileError → CompileError
  | .tooDeeplyNested _ => .tooDeeplyNested limit
  | cause => cause

namespace Registry

variable {r r' : Registry}

def Refers (r : Registry) (source target : String) : Prop :=
  ∃ id e, .reference id ∈ lex source ∧ e ∈ r.variants id ∧ e.source = target

def Chain (r : Registry) (source : String) (path : List String) : Prop :=
  List.IsChain r.Refers (source :: path)

theorem Chain.cons {source target : String} {path : List String} (h : r.Refers source target)
    (hpath : r.Chain target path) : r.Chain source (target :: path) :=
  List.isChain_cons_cons.2 ⟨h, hpath⟩

theorem Chain.exists_prepend {source target : String} {path : List String}
    (h : ReflTransGen r.Refers source target) (hpath : r.Chain target path) :
    ∃ path', r.Chain source path' ∧ path.length ≤ path'.length := by
  induction h using ReflTransGen.head_induction_on with
  | refl => exact ⟨path, hpath, Nat.le_refl _⟩
  | head hstep _ ih =>
      obtain ⟨path', hpath', hle⟩ := ih
      exact ⟨_, hpath'.cons hstep, Nat.le_succ_of_le hle⟩

/-- From a cycle, chains go on for ever. -/
theorem exists_chain_of_cycle {source target : String} (h : ReflTransGen r.Refers source target)
    (hcycle : TransGen r.Refers target target) (n : Nat) :
    ∃ path, r.Chain source path ∧ n ≤ path.length := by
  have hround : ∃ path, r.Chain target path ∧ n ≤ path.length := by
    induction n with
    | zero => exact ⟨[], List.isChain_singleton _, Nat.zero_le _⟩
    | succ n ih =>
        obtain ⟨path, hpath, hle⟩ := ih
        obtain ⟨next, hstep, hback⟩ := TransGen.head'_iff.1 hcycle
        obtain ⟨path', hpath', hle'⟩ := hpath.exists_prepend hback
        exact ⟨next :: path', hpath'.cons hstep, Nat.succ_le_succ (Nat.le_trans hle hle')⟩
  obtain ⟨path, hpath, hle⟩ := hround
  obtain ⟨path', hpath', hle'⟩ := hpath.exists_prepend h
  exact ⟨path', hpath', Nat.le_trans hle hle'⟩

section Heights

variable {f : Expression → Except CompileError CompiledExpression} {b : Nat} {d d' : Draft}

theorem eq_variants_of_resolve? {id : String} {es : List Expression} (h : r.resolve? id = some es) :
    es = r.variants id := by
  unfold resolve? at h
  split at h
  · cases h
  · exact (Option.some.inj h).symm

theorem forall_height_lt_iff {es : List Expression} {cs : List CompiledExpression}
    (h : es.mapM f = .ok cs) :
    (∀ c ∈ cs, c.height < b) ↔ ∀ e ∈ es, ∃ c, f e = .ok c ∧ c.height < b := by
  induction es generalizing cs with
  | nil =>
      cases h
      simp
  | cons e es ih =>
      rw [List.mapM_cons] at h
      obtain ⟨c, hc, h⟩ := bind_eq_ok_iff.1 h
      obtain ⟨rest, hrest, h⟩ := bind_eq_ok_iff.1 h
      cases h
      rw [List.forall_mem_cons, List.forall_mem_cons, ih hrest, hc]
      simp

theorem height_le_iff_of_expandToken {t : Token} (h : r.expandToken f d t = .ok d') :
    d'.height ≤ b ↔ d.height ≤ b ∧
      ∀ id, t = .reference id → ∀ e ∈ r.variants id, ∃ c, f e = .ok c ∧ c.height < b := by
  cases t with
  | call id args =>
      have hheight : d'.height = d.height := by
        simp only [expandToken] at h
        split at h
        · cases h
        · split at h <;> cases h
          rfl
      simp [hheight]
  | reference id =>
      simp only [expandToken] at h
      split at h
      · cases h
      · next hes =>
          obtain ⟨cs, hcs, h⟩ := bind_eq_ok_iff.1 h
          cases h
          rw [Draft.height_splice, Draft.raisedBy_le_iff, forall_height_lt_iff hcs,
            eq_variants_of_resolve? hes]
          simp
  | text | escape | charClass | groupOpen | namedOpen | specialOpen =>
      cases h
      simp [Draft.append]

theorem height_le_iff_of_foldlM {ts : List Token} (h : ts.foldlM (r.expandToken f) d = .ok d') :
    d'.height ≤ b ↔ d.height ≤ b ∧
      ∀ id, .reference id ∈ ts → ∀ e ∈ r.variants id, ∃ c, f e = .ok c ∧ c.height < b := by
  induction ts generalizing d with
  | nil =>
      cases h
      simp
  | cons t ts ih =>
      rw [List.foldlM_cons] at h
      obtain ⟨d₁, ht, hts⟩ := bind_eq_ok_iff.1 h
      rw [ih hts, height_le_iff_of_expandToken ht, and_assoc, ← forall_and]
      refine and_congr_right fun _ => forall_congr' fun id => ?_
      rw [List.mem_cons, or_imp, @eq_comm _ t]

theorem height_le_iff_of_expand {n : Nat} {source : String} {c : CompiledExpression}
    (h : r.expand (n + 1) source = .ok c) :
    c.height ≤ b ↔ ∀ target, r.Refers source target →
      ∃ c', r.expand n target = .ok c' ∧ c'.height < b := by
  obtain ⟨d, hd, hc⟩ := bind_eq_ok_iff.1 h
  rw [height_of_assemble hc, height_le_iff_of_foldlM hd]
  constructor
  · rintro ⟨-, hall⟩ target ⟨id, e, hid, he, rfl⟩
    exact hall id hid e he
  · intro hall
    exact ⟨Nat.zero_le _, fun id hid e he => hall e.source ⟨id, e, hid, he, rfl⟩⟩

theorem Chain.length_le_height {n : Nat} {source : String} {path : List String}
    {c : CompiledExpression} (h : r.expand n source = .ok c) (hpath : r.Chain source path) :
    path.length ≤ c.height := by
  induction path generalizing n source c with
  | nil => exact Nat.zero_le _
  | cons target path ih =>
      obtain ⟨hstep, hpath⟩ := List.isChain_cons_cons.1 hpath
      cases n with
      | zero => cases h
      | succ n =>
          obtain ⟨c', hc', hlt⟩ := (height_le_iff_of_expand h).1 (Nat.le_refl _) target hstep
          have := ih hc' hpath
          rw [List.length_cons]
          omega

theorem exists_chain_of_expand {n : Nat} {source : String} {c : CompiledExpression}
    (h : r.expand n source = .ok c) : ∃ path, r.Chain source path ∧ path.length = c.height := by
  induction n generalizing source c with
  | zero => cases h
  | succ n ih =>
      rcases hheight : c.height with _ | k
      · exact ⟨[], List.isChain_singleton _, rfl⟩
      · -- not all that is referred to lies below `k`, and what does not has a chain of `k` references
        have hnot := mt (height_le_iff_of_expand (b := k) h).2 (by omega)
        push Not at hnot
        obtain ⟨target, hstep, hhigh⟩ := hnot
        obtain ⟨c', hc', hlt⟩ := (height_le_iff_of_expand h).1 (Nat.le_refl _) target hstep
        obtain ⟨path, hpath, hlen⟩ := ih hc'
        have := hhigh c' hc'
        refine ⟨target :: path, hpath.cons hstep, ?_⟩
        rw [List.length_cons]
        omega

end Heights

section Refusals

variable {f : Expression → Except CompileError CompiledExpression} {d : Draft} {limit : Nat}

theorem mapError_bind {α β : Type} (x : Except CompileError α) (g : α → Except CompileError β)
    (h : CompileError → CompileError) :
    (x >>= g).mapError h = x.mapError h >>= fun a => (g a).mapError h := by
  cases x <;> rfl

theorem mapError_assemble (limit : Nat) (flags : ModeFlags) (source : String) (d : Draft) :
    (assemble flags source d).mapError (.limited limit) = assemble flags source d := by
  cases h : assemble flags source d with
  | ok c => rfl
  | error cause =>
      rcases assemble_eq_error h with ⟨-, rfl⟩ | ⟨_, -, ⟨-, rfl⟩ | ⟨-, -, rfl⟩⟩
      · rfl
      · rfl
      · rfl

theorem assemble_ne_tooDeeplyNested (flags : ModeFlags) (source : String) (d : Draft) :
    assemble flags source d ≠ .error (.tooDeeplyNested limit) := by
  intro h
  rcases assemble_eq_error h with ⟨-, ⟨⟩⟩ | ⟨_, -, ⟨-, ⟨⟩⟩ | ⟨-, -, ⟨⟩⟩⟩

theorem exists_of_mapM_error {es : List Expression} {cause : CompileError}
    (h : es.mapM f = .error cause) : ∃ e ∈ es, f e = .error cause := by
  induction es with
  | nil => cases h
  | cons e es ih =>
      rw [List.mapM_cons] at h
      rcases bind_eq_error_iff.1 h with he | ⟨c, -, h⟩
      · exact ⟨e, List.mem_cons_self, he⟩
      · rcases bind_eq_error_iff.1 h with hes | ⟨cs, -, h⟩
        · obtain ⟨e', he', hcause⟩ := ih hes
          exact ⟨e', List.mem_cons_of_mem _ he', hcause⟩
        · cases h

theorem exists_of_foldlM_tooDeeplyNested {ts : List Token}
    (h : ts.foldlM (r.expandToken f) d = .error (.tooDeeplyNested limit)) :
    ∃ id e, .reference id ∈ ts ∧ e ∈ r.variants id ∧ f e = .error (.tooDeeplyNested limit) := by
  induction ts generalizing d with
  | nil => cases h
  | cons t ts ih =>
      rw [List.foldlM_cons] at h
      rcases bind_eq_error_iff.1 h with ht | ⟨d', -, hts⟩
      · cases t with
        | call id args =>
            simp only [expandToken] at ht
            split at ht
            · cases ht
            · split at ht <;> cases ht
        | reference id =>
            simp only [expandToken] at ht
            split at ht
            · cases ht
            · next hes =>
                rcases bind_eq_error_iff.1 ht with ht | ⟨cs, -, ht⟩
                · obtain ⟨e, he, hcause⟩ := exists_of_mapM_error ht
                  rw [eq_variants_of_resolve? hes] at he
                  exact ⟨id, e, List.mem_cons_self, he, hcause⟩
                · cases ht
        | text | escape | charClass | groupOpen | namedOpen | specialOpen => cases ht
      · obtain ⟨id, e, hid, he, hcause⟩ := ih hts
        exact ⟨id, e, List.mem_cons_of_mem _ hid, he, hcause⟩

/-- What is refused for its depth has a chain of as many references as there were levels left. -/
theorem exists_chain_of_tooDeeplyNested {n : Nat} {source : String}
    (h : r.expand n source = .error (.tooDeeplyNested limit)) :
    limit = r.options.maxDepth ∧ ∃ path, r.Chain source path ∧ n ≤ path.length := by
  induction n generalizing source with
  | zero =>
      cases h
      exact ⟨rfl, [], List.isChain_singleton _, Nat.le_refl _⟩
  | succ n ih =>
      rcases bind_eq_error_iff.1 h with hfold | ⟨d, -, hassemble⟩
      · obtain ⟨id, e, hid, he, hcause⟩ := exists_of_foldlM_tooDeeplyNested hfold
        obtain ⟨hlimit, path, hpath, hle⟩ := ih hcause
        exact ⟨hlimit, e.source :: path, hpath.cons ⟨id, e, hid, he, rfl⟩, Nat.succ_le_succ hle⟩
      · exact absurd hassemble (assemble_ne_tooDeeplyNested _ _ _)

end Refusals

structure Agree (r r' : Registry) (source : String) : Prop where
  variants : ∀ id, .reference id ∈ lex source →
    (r'.variants id).map (·.source) = (r.variants id).map (·.source)
  functions : ∀ id args, .call id args ∈ lex source → r'.function? id = r.function? id

section Agreement

variable {f f' : Expression → Except CompileError CompiledExpression} {limit : Nat}

theorem mapM_eq_mapError {compile compile' : String → Except CompileError CompiledExpression}
    {es es' : List Expression} (hsources : es'.map (·.source) = es.map (·.source))
    (h : ∀ e ∈ es, compile' e.source = (compile e.source).mapError (.limited limit)) :
    es'.mapM (fun e => compile' e.source) =
      (es.mapM fun e => compile e.source).mapError (.limited limit) := by
  induction es generalizing es' with
  | nil =>
      rw [List.map_nil, List.map_eq_nil_iff] at hsources
      rw [hsources]
      rfl
  | cons e es ih =>
      obtain ⟨e', es', rfl, hsource, hsources⟩ := List.map_eq_cons_iff.1 hsources
      obtain ⟨he, hes⟩ := List.forall_mem_cons.1 h
      rw [List.mapM_cons, List.mapM_cons, hsource, he, ih hsources hes, mapError_bind]
      simp only [mapError_bind]
      rfl

theorem expandToken_eq_mapError {compile compile' : String → Except CompileError CompiledExpression}
    {source : String} (hagree : r.Agree r' source)
    (h : ∀ target, r.Refers source target →
      compile' target = (compile target).mapError (.limited limit))
    {t : Token} (ht : t ∈ lex source) (d : Draft) :
    r'.expandToken (fun e => compile' e.source) d t =
      (r.expandToken (fun e => compile e.source) d t).mapError (.limited limit) := by
  cases t with
  | call id args =>
      simp only [expandToken, hagree.functions id args ht]
      cases r.function? id with
      | none => rfl
      | some g =>
          dsimp only
          cases g.execute (argumentsOf args) <;> rfl
  | reference id =>
      have hsources := hagree.variants id ht
      have hempty : (r'.variants id).isEmpty = (r.variants id).isEmpty := by
        simpa using congrArg List.isEmpty hsources
      simp only [expandToken, resolve?, hempty]
      cases (r.variants id).isEmpty with
      | true => rfl
      | false =>
          have hmap := mapM_eq_mapError hsources fun e he => h e.source ⟨id, e, ht, he, rfl⟩
          simp only [Bool.false_eq_true, if_false, hmap, mapError_bind]
          rfl
  | text | escape | charClass | groupOpen | namedOpen | specialOpen => rfl

theorem foldlM_eq_mapError {ts : List Token}
    (h : ∀ t ∈ ts, ∀ d, r'.expandToken f' d t = (r.expandToken f d t).mapError (.limited limit))
    (d : Draft) :
    ts.foldlM (r'.expandToken f') d = (ts.foldlM (r.expandToken f) d).mapError (.limited limit) := by
  induction ts generalizing d with
  | nil => rfl
  | cons t ts ih =>
      obtain ⟨ht, hts⟩ := List.forall_mem_cons.1 h
      rw [List.foldlM_cons, List.foldlM_cons, ht, mapError_bind]
      simp only [ih hts]

/-- Where two registries agree on all that a source leads to, they expand it alike, but for the limit
that an error tells. -/
theorem expand_eq_mapError (hflags : r'.options.flags = r.options.flags) {source : String}
    (h : ∀ target, ReflTransGen r.Refers source target → r.Agree r' target) (n : Nat) :
    r'.expand n source = (r.expand n source).mapError (.limited r'.options.maxDepth) := by
  induction n generalizing source with
  | zero => rfl
  | succ n ih =>
      have hcompile : ∀ target, r.Refers source target →
          r'.expand n target = (r.expand n target).mapError (.limited r'.options.maxDepth) :=
        fun target hstep => ih fun _ hreach => h _ (hreach.head hstep)
      have hfold := foldlM_eq_mapError
        (fun t (ht : t ∈ lex source) d => expandToken_eq_mapError (h source .refl) hcompile ht d) .empty
      simp only [expand, hfold, mapError_bind, hflags, mapError_assemble]

end Agreement

/-- The registries have the same contents, under the same flags. Their limits may differ, and so may the
stores that they have been made on. -/
structure Alike (r r' : Registry) : Prop where
  flags : r'.options.flags = r.options.flags
  variants : ∀ id, (r'.variants id).map (·.source) = (r.variants id).map (·.source)
  functions : ∀ id, r'.function? id = r.function? id

theorem sources_add (r : Registry) (id source : String) (s : Store) (k : String) :
    ((r.add id source s).2.1.variants k).map (·.source) =
      if id = k ∧ source ∉ (r.variants k).map (·.source) then (r.variants k).map (·.source) ++ [source]
      else (r.variants k).map (·.source) := by
  unfold add
  cases h : (r.variants id).find? (fun e => e.source = source) with
  | some e =>
      have hsource : e.source = source := by simpa using List.find?_some h
      have hmem : source ∈ (r.variants id).map (·.source) :=
        List.mem_map.2 ⟨e, List.mem_of_find?_eq_some h, hsource⟩
      rw [if_neg]
      rintro ⟨rfl, hnot⟩
      exact hnot hmem
  | none =>
      have hnot : source ∉ (r.variants id).map (·.source) := by simpa using h
      dsimp only
      rw [variants_assign]
      by_cases hk : id = k
      · subst hk
        rw [if_pos rfl, if_pos ⟨rfl, hnot⟩, List.map_append]
        rfl
      · rw [if_neg hk, if_neg fun hh => hk hh.1]

theorem options_add (r : Registry) (id source : String) (s : Store) :
    (r.add id source s).2.1.options = r.options := by
  unfold add
  split <;> rfl

theorem Alike.apply (h : r.Alike r') (d : Definition) (s s' : Store) :
    (d.apply (r, s)).1.Alike (d.apply (r', s')).1 := by
  cases d with
  | expression id source =>
      refine ⟨?_, fun k => ?_, fun k => ?_⟩
      · simp only [Definition.apply, options_add, h.flags]
      · simp only [Definition.apply, sources_add, h.variants]
      · simp only [Definition.apply, function?_add, h.functions]
  | function id f =>
      refine ⟨h.flags, h.variants, fun k => ?_⟩
      simp only [Definition.apply, function?_addFunction, h.functions]

theorem Alike.foldl_apply (h : r.Alike r') (ds : List Definition) (s s' : Store) :
    (ds.foldl Definition.apply (r, s)).1.Alike (ds.foldl Definition.apply (r', s')).1 := by
  induction ds generalizing r r' s s' with
  | nil => exact h
  | cons d ds ih => exact ih (h.apply d s s') _ _

theorem alike_of_definitions {o o' : Options} (h : o'.flags = o.flags) (ds : List Definition)
    (s s' : Store) : (ofDefinitions o ds s).1.Alike (ofDefinitions o' ds s').1 := by
  have hstart : (withOptions o).Alike (withOptions o') := ⟨h, fun _ => rfl, fun _ => rfl⟩
  exact hstart.foldl_apply ds s s'

theorem Alike.agree (h : r.Alike r') (source : String) : r.Agree r' source :=
  ⟨fun id _ => h.variants id, fun id _ _ => h.functions id⟩

theorem options_foldl_apply (ds : List Definition) (r : Registry) (s : Store) :
    (ds.foldl Definition.apply (r, s)).1.options = r.options := by
  induction ds generalizing r s with
  | nil => rfl
  | cons d ds ih =>
      rw [List.foldl_cons, ih]
      cases d with
      | expression id source => exact options_add r id source s
      | function id f => rfl

/-- The registry has these contents and no others, and the store is left by requests compiled against
it, whether they succeeded. Others may use the store too, as long as they leave alone what belongs to
the registry's expressions. -/
inductive Serves (o : Options) (ds : List Definition) (r : Registry) : Store → Prop where
  | define {s₀ s : Store} (hissued : ∀ p ∈ s₀.published, p.1 < s₀.nextSerial)
      (h : ofDefinitions o ds s₀ = (r, s)) : Serves o ds r s
  | compile {s : Store} (h : Serves o ds r s) {q : Request} (hq : r.Knows q) :
      Serves o ds r ((q.compile r).run s).2
  | others {s t : Store} (h : Serves o ds r s) (hserial : s.nextSerial ≤ t.nextSerial)
      (hissued : ∀ p ∈ t.published, p.1 < t.nextSerial)
      (hsame : ∀ e, r.Holds e → t.published? e = s.published? e) : Serves o ds r t

namespace Serves

variable {o o' : Options} {ds : List Definition} {s s' : Store}

theorem memo (h : Serves o ds r s) : r.Memo (fun _ => none) s := by
  induction h with
  | define hissued h =>
      have hsits := Sits.withOptions o hissued
      have hnone := unpublished_foldl_apply hsits
        (fun e he => by simp [Holds, withOptions, variants] at he) ds
      have hmemo := Memo.of_unpublished (hsits.foldl_apply ds) hnone
      rw [ofDefinitions] at h
      rwa [h] at hmemo
  | @compile s h q hq ih =>
      obtain ⟨t, hrun, ht⟩ := q.run_compile hq ih
      rwa [hrun]
  | @others s t h hserial hissued hsame ih =>
      refine ⟨⟨fun e he => ?_, ih.sits.distinct, hissued⟩, fun e c _ hc => ?_, fun e c he hc => ?_⟩
      · exact Nat.lt_of_lt_of_le (ih.sits.issued e he) hserial
      · cases hc
      · exact ih.faithful e c he ((hsame e he).symm.trans hc)

theorem defined (h : Serves o ds r s) : ∃ s₀, r = (ofDefinitions o ds s₀).1 := by
  induction h with
  | @define s₀ s _ h => exact ⟨s₀, by rw [h]⟩
  | compile _ _ ih => exact ih
  | others _ _ _ _ ih => exact ih

theorem options_eq (h : Serves o ds r s) : r.options = o := by
  obtain ⟨s₀, rfl⟩ := h.defined
  exact options_foldl_apply ds (withOptions o) s₀

theorem alike (h : Serves o ds r s) (h' : Serves o' ds r' s') (hflags : o'.flags = o.flags) :
    r.Alike r' := by
  obtain ⟨s₀, rfl⟩ := h.defined
  obtain ⟨s₀', rfl⟩ := h'.defined
  exact alike_of_definitions hflags ds s₀ s₀'

theorem result_eq (h : Serves o ds r s) {q : Request} (hq : r.Knows q) :
    ((q.compile r).run s).1 = r.expand (o.maxDepth + 1) q.text := by
  obtain ⟨t, hrun, -⟩ := q.run_compile hq h.memo
  rw [hrun, expansion, h.options_eq]

/-- What compiles under one limit compiles to the same under every limit that is not below its
height, and under the others it is refused for its depth. -/
theorem result_of_ok (h : Serves o ds r s) (h' : Serves o' ds r' s') (hflags : o'.flags = o.flags)
    {q q' : Request} (hq : r.Knows q) (hq' : r'.Knows q') (htext : q'.text = q.text)
    {c : CompiledExpression} (hc : ((q.compile r).run s).1 = .ok c) :
    ((q'.compile r').run s').1 =
      if c.height ≤ o'.maxDepth then .ok c else .error (.tooDeeplyNested o'.maxDepth) := by
  have halike := h.alike h' hflags
  have hagree : ∀ target, ReflTransGen r.Refers q.text target → r.Agree r' target :=
    fun target _ => halike.agree target
  have hother := expand_eq_mapError halike.flags hagree (o'.maxDepth + 1)
  rw [h.result_eq hq, ← expandFrom_none] at hc
  rw [h'.result_eq hq', htext, hother, h'.options_eq, ← expandFrom_none, expandFrom_of_ok hc]
  by_cases hle : c.height ≤ o'.maxDepth
  · rw [if_pos (Nat.lt_succ_of_le hle), if_pos hle]
    rfl
  · rw [if_neg (by omega), if_neg hle]
    rfl

/-- A form is as high as the longest chain of references from its source is long. The limit on nesting
refuses those sources alone from which a chain is longer, so that none compiles that leads to a cycle;
and it decides no more than that. It makes no difference what has been compiled before. -/
theorem longest_chain (h : Serves o ds r s) {q : Request} (hq : r.Knows q) :
    (∀ c, ((q.compile r).run s).1 = .ok c →
      (∀ path, r.Chain q.text path → path.length ≤ c.height) ∧
        (∃ path, r.Chain q.text path ∧ path.length = c.height) ∧
          ∀ (limit : Nat) (r' : Registry) (s' : Store) (q' : Request),
            Serves ⟨o.flags, limit⟩ ds r' s' → r'.Knows q' → q'.text = q.text →
              ((q'.compile r').run s').1 =
                if c.height ≤ limit then .ok c else .error (.tooDeeplyNested limit)) ∧
      (∀ limit, ((q.compile r).run s).1 = .error (.tooDeeplyNested limit) →
        limit = o.maxDepth ∧ ∃ path, r.Chain q.text path ∧ limit < path.length) ∧
      ∀ target, ReflTransGen r.Refers q.text target → TransGen r.Refers target target →
        ∀ c, ((q.compile r).run s).1 ≠ .ok c := by
  have hresult := h.result_eq hq
  have hlongest : ∀ c, ((q.compile r).run s).1 = .ok c → ∀ path, r.Chain q.text path →
      path.length ≤ c.height :=
    fun c hc path hpath => hpath.length_le_height (hresult.symm.trans hc)
  refine ⟨fun c hc => ⟨hlongest c hc, ?_, ?_⟩, fun limit herror => ?_, fun target hreach hcycle c hc => ?_⟩
  · exact exists_chain_of_expand (hresult.symm.trans hc)
  · intro limit r' s' q' h' hq' htext
    exact h.result_of_ok h' rfl hq hq' htext hc
  · obtain ⟨hlimit, path, hpath, hle⟩ := exists_chain_of_tooDeeplyNested (hresult.symm.trans herror)
    rw [h.options_eq] at hlimit
    exact ⟨hlimit, path, hpath, by omega⟩
  · obtain ⟨path, hpath, hle⟩ := exists_chain_of_cycle hreach hcycle (c.height + 1)
    have := hlongest c hc path hpath
    omega

/-- Two references deep, where the lower one has been compiled before: it compiles under a limit of two,
and not under a limit of one. -/
theorem longest_chain_two :
    let ds : List Definition := [.expression "a" "x", .expression "b" "${a}"]
    let w := ofDefinitions ⟨.none, 2⟩ ds .empty
    let s := (((Request.registered ⟨1, "${a}"⟩).compile w.1).run w.2).2
    let v := ofDefinitions ⟨.none, 1⟩ ds .empty
    let q := Request.source "${b}"
    Serves ⟨.none, 2⟩ ds w.1 s ∧ w.1.Knows q ∧ ∃ c, ((q.compile w.1).run s).1 = .ok c ∧ c.height = 2 ∧
      (∃ path, w.1.Chain q.text path ∧ path.length = 2) ∧
        ((q.compile v.1).run v.2).1 = .error (.tooDeeplyNested 1) := by
  intro ds w s v q
  have hknows : w.1.Knows (.registered ⟨1, "${a}"⟩) := ⟨"b", by decide⟩
  have hserves : Serves ⟨.none, 2⟩ ds w.1 s := .compile (.define (by simp [Store.empty]) rfl) hknows
  have hserves' : Serves ⟨.none, 1⟩ ds v.1 v.2 := .define (by simp [Store.empty]) rfl
  have hok : ((q.compile w.1).run s).1.toOption.any fun c : CompiledExpression =>
      decide (c.height = 2) := by decide +kernel
  obtain ⟨c, hc, hheight⟩ := Compiling.exists_of_any hok
  have hheight : c.height = 2 := of_decide_eq_true hheight
  obtain ⟨-, hpath, hlimit⟩ := (hserves.longest_chain (q := q) trivial).1 c hc
  rw [hheight] at hpath hlimit
  exact ⟨hserves, trivial, c, hc, hheight, hpath, hlimit 1 v.1 v.2 q hserves' trivial rfl⟩

end Serves

end Registry

end Patchwork
