import Patchwork.Proofs.Failure

namespace Patchwork

open Compiling Token

/-- What an expansion meets from left to right, to its end or to its first error. -/
inductive Course where
  | finished
  | failed
  | call (c : Call) (rest : Course)
  /-- A variant in which nothing fails, and what comes after it. -/
  | variant (e : Expression) (inside rest : Course)
  /-- A variant in which the error is met. -/
  | failedIn (e : Expression) (inside : Course)

def Expression.adding (e : Expression) (known : Expression → Bool) : Expression → Bool :=
  fun d => decide (d.serial = e.serial) || known d

namespace Course

def completes : Course → Bool
  | finished => true
  | failed | failedIn _ _ => false
  | call _ rest | variant _ _ rest => rest.completes

def andThen : Course → Course → Course
  | finished, next => next
  | failed, _ => failed
  | call c rest, next => call c (rest.andThen next)
  | variant e inside rest, next => variant e inside (rest.andThen next)
  | failedIn e inside, _ => failedIn e inside

def join (ks : List Course) : Course := ks.foldr andThen finished

def enter (e : Expression) (inside : Course) : Course :=
  if inside.completes then variant e inside finished else failedIn e inside

/-- Which expressions have a form at the end, by which have one at the start: a variant is given one when
it has been gone through. -/
def formed : Course → (Expression → Bool) → Expression → Bool
  | finished, known | failed, known => known
  | call _ rest, known => rest.formed known
  | variant e inside rest, known =>
    rest.formed (if known e then known else e.adding (inside.formed known))
  | failedIn e inside, known => if known e then known else inside.formed known

/-- The calls that are made, by which expressions have a form at the start: none are made inside a variant
that has a form when it is met. -/
def calls : Course → (Expression → Bool) → List Call
  | finished, _ | failed, _ => []
  | call c rest, known => c :: rest.calls known
  | variant e inside rest, known =>
    if known e then rest.calls known
    else inside.calls known ++ rest.calls (e.adding (inside.formed known))
  | failedIn e inside, known => if known e then [] else inside.calls known

def without (e : Expression) : Course → Course
  | finished => finished
  | failed => failed
  | call c rest => call c (rest.without e)
  | variant d inside rest =>
    variant d (if d = e then finished else inside.without e) (rest.without e)
  | failedIn d inside => failedIn d (if d = e then failed else inside.without e)

variable {k : Course} {e : Expression} {known : Expression → Bool}

theorem join_cons (k : Course) (ks : List Course) : join (k :: ks) = k.andThen (join ks) := rfl

theorem completes_andThen (k k' : Course) : (k.andThen k').completes = (k.completes && k'.completes) := by
  induction k with
  | finished | failed => rfl
  | call c rest ih => exact ih
  | variant e inside rest _ ih => exact ih
  | failedIn e inside => rfl

theorem formed_andThen (k k' : Course) (known : Expression → Bool) :
    (k.andThen k').formed known =
      if k.completes then k'.formed (k.formed known) else k.formed known := by
  induction k generalizing known with
  | finished | failed => rfl
  | call c rest ih => exact ih known
  | variant e inside rest _ ih => exact ih _
  | failedIn e inside => rfl

theorem calls_andThen (k k' : Course) (known : Expression → Bool) :
    (k.andThen k').calls known =
      k.calls known ++ if k.completes then k'.calls (k.formed known) else [] := by
  induction k generalizing known with
  | finished => rfl
  | failed => rfl
  | call c rest ih => exact congrArg (c :: ·) (ih known)
  | variant e inside rest _ ih =>
      simp only [andThen, calls, formed, completes]
      split
      · exact ih known
      · rw [ih, List.append_assoc]
  | failedIn e inside => simp [andThen, completes]

theorem completes_enter (e : Expression) (inside : Course) : (enter e inside).completes = inside.completes := by
  unfold enter
  cases h : inside.completes <;> rfl

theorem calls_enter (e : Expression) (inside : Course) (known : Expression → Bool) :
    (enter e inside).calls known = if known e then [] else inside.calls known := by
  unfold enter
  cases inside.completes <;> cases h : known e <;> simp [calls, h]

theorem formed_enter (e : Expression) (inside : Course) (known : Expression → Bool) :
    (enter e inside).formed known =
      if known e then known
      else if inside.completes then e.adding (inside.formed known) else inside.formed known := by
  unfold enter
  cases inside.completes <;> cases h : known e <;> simp [formed, h]

theorem formed_of_known (h : known e) : k.formed known e := by
  induction k generalizing known with
  | finished | failed => exact h
  | call c rest ih => exact ih h
  | variant d inside rest hinside hrest =>
      refine hrest ?_
      split
      · exact h
      · simp [Expression.adding, hinside h]
  | failedIn d inside hinside =>
      simp only [formed]
      split
      · exact h
      · exact hinside h

theorem calls_without (h : known e) : (k.without e).calls known = k.calls known := by
  have hboth : (k.without e).calls known = k.calls known ∧ (k.without e).formed known = k.formed known := by
    induction k generalizing known with
    | finished | failed => exact ⟨rfl, rfl⟩
    | call c rest ih => exact ⟨congrArg (c :: ·) (ih h).1, (ih h).2⟩
    | variant d inside rest hinside hrest =>
        simp only [without, calls, formed]
        cases hd : known d with
        | true => simpa using hrest h
        | false =>
            have hne : d ≠ e := fun heq => by rw [heq, h] at hd; cases hd
            have hadding : d.adding (inside.formed known) e := by
              simp [Expression.adding, formed_of_known h]
            simp only [if_neg hne, Bool.false_eq_true, if_false, hinside h]
            exact ⟨congrArg _ (hrest hadding).1, (hrest hadding).2⟩
    | failedIn d inside hinside =>
        simp only [without, calls, formed]
        cases hd : known d with
        | true => exact ⟨rfl, rfl⟩
        | false =>
            have hne : d ≠ e := fun heq => by rw [heq, h] at hd; cases hd
            simpa [hne] using hinside h
  exact hboth.1

end Course

namespace Registry

def courseOfCall (r : Registry) (id args : String) : Course :=
  match r.function? id with
  | none => .failed
  | some f =>
    .call ⟨id, argumentsOf args, f matches .range⟩
      (if (f.execute (argumentsOf args)).isOk then .finished else .failed)

def courseOfToken (r : Registry) (inside : Expression → Course) : Token → Course
  | .call id args => r.courseOfCall id args
  | .reference id =>
    match r.resolve? id with
    | none => .failed
    | some variants => .join (variants.map fun e => .enter e (inside e))
  | _ => .finished

def course (r : Registry) : Nat → String → Course
  | 0, _ => .failed
  | levels + 1, source =>
    Course.andThen (.join ((lex source).map (r.courseOfToken fun e => r.course levels e.source)))
      (if (r.expand (levels + 1) source).isOk then .finished else .failed)

end Registry

namespace Request

def course (r : Registry) (q : Request) (s : Store) : Course :=
  .enter (q.begin s).1 (r.course (r.options.maxDepth + 1) (q.begin s).1.source)

def after (r : Registry) (qs : List Request) (s : Store) : Store :=
  qs.foldl (fun s q => ((q.compile r).run s).2) s

end Request

namespace Store

theorem calls_publish (s : Store) (e : Expression) (c : CompiledExpression) :
    (s.publish e c).calls = s.calls := by
  unfold publish
  split <;> rfl

theorem isCompiled_congr (s : Store) {e d : Expression} (h : e.serial = d.serial) :
    s.isCompiled e = s.isCompiled d := by
  simp only [isCompiled, published?, h]

theorem isCompiled_publish (s : Store) (e : Expression) (c : CompiledExpression) :
    (s.publish e c).isCompiled = e.adding s.isCompiled := by
  funext d
  by_cases hd : d.serial = e.serial
  · rw [isCompiled_congr _ hd, isCompiled, published?_publish_self]
    simp [Expression.adding, hd]
  · rw [isCompiled, published?_publish_of_ne _ c (Ne.symm hd)]
    simp [Expression.adding, hd, isCompiled]

end Store

namespace Registry

variable {r : Registry}

section Completes

variable {f : Expression → Except CompileError CompiledExpression} {inside : Expression → Course}
  (h : ∀ e, (inside e).completes = (f e).isOk)

include h

theorem completes_enterAll (es : List Expression) :
    (Course.join (es.map fun e => .enter e (inside e))).completes = (es.mapM f).isOk := by
  induction es with
  | nil => rfl
  | cons e es ih =>
      rw [List.map_cons, Course.join_cons, Course.completes_andThen, Course.completes_enter, h, ih,
        List.mapM_cons]
      cases f e with
      | error cause => rfl
      | ok c => cases es.mapM f <;> rfl

theorem completes_courseOfToken (d : Draft) (t : Token) :
    (r.courseOfToken inside t).completes = (r.expandToken f d t).isOk := by
  cases t with
  | call id args =>
      simp only [courseOfToken, courseOfCall, expandToken]
      cases r.function? id with
      | none => rfl
      | some g => cases hg : g.execute (argumentsOf args) <;> simp [Course.completes, hg] <;> rfl
  | reference id =>
      simp only [courseOfToken, expandToken]
      cases r.resolve? id with
      | none => rfl
      | some es =>
          dsimp only
          rw [completes_enterAll h]
          cases es.mapM f <;> rfl
  | text | escape | charClass | groupOpen | namedOpen | specialOpen => rfl

theorem completes_courseOfTokens (ts : List Token) (d : Draft) :
    (Course.join (ts.map (r.courseOfToken inside))).completes = (ts.foldlM (r.expandToken f) d).isOk := by
  induction ts generalizing d with
  | nil => rfl
  | cons t ts ih =>
      rw [List.map_cons, Course.join_cons, Course.completes_andThen, completes_courseOfToken h d t,
        List.foldlM_cons]
      cases r.expandToken f d t with
      | error cause => rfl
      | ok d' => exact ih d'

end Completes

theorem completes_course (r : Registry) (n : Nat) (source : String) :
    (r.course n source).completes = (r.expand n source).isOk := by
  induction n generalizing source with
  | zero => rfl
  | succ n ih =>
      have htokens := completes_courseOfTokens (r := r) (fun e => ih e.source) (lex source) .empty
      rw [course, Course.completes_andThen, htokens]
      cases hexpand : r.expand (n + 1) source with
      | error cause => simp [Except.isOk, Except.toBool, Course.completes]
      | ok c =>
          obtain ⟨d, hd, -⟩ := bind_eq_ok_iff.1 hexpand
          rw [hd]
          rfl

/-- On every store that keeps the registry's forms, the computation makes the calls of the course, and forms
are given to the variants that are given one in it. -/
def Follows (r : Registry) {α : Type} (x : Compiling α) (k : Course) : Prop :=
  ∀ s, r.Memo (fun _ => none) s →
    (x.run s).2.calls = s.calls ++ k.calls s.isCompiled ∧ (x.run s).2.isCompiled = k.formed s.isCompiled

namespace Follows

variable {α β : Type} {x : Compiling α} {f : α → Compiling β} {k k' : Course}

theorem nothing (hcalls : k.calls = fun _ => []) (hformed : k.formed = id) (hx : ∀ s, (x.run s).2 = s) :
    r.Follows x k := by
  intro s _
  rw [hx, hcalls, hformed]
  exact ⟨(List.append_nil _).symm, rfl⟩

theorem bind {y : Except CompileError α} (hx : r.Follows x k) (hy : r.Yields (fun _ => none) x y)
    (hk : k.completes = y.isOk) (hf : ∀ a, y = .ok a → r.Follows (f a) k') :
    r.Follows (x >>= f) (k.andThen k') := by
  intro s hs
  obtain ⟨t, hrun, ht, -⟩ := hy s hs
  obtain ⟨hcalls, hformed⟩ := hx s hs
  rw [hrun] at hcalls hformed
  rw [Course.calls_andThen, Course.formed_andThen, hk]
  cases y with
  | error cause =>
      rw [run_bind_error hrun]
      exact ⟨by simpa [Except.isOk, Except.toBool] using hcalls, hformed⟩
  | ok a =>
      obtain ⟨hcalls', hformed'⟩ := hf a rfl t ht
      rw [run_bind_ok hrun, hcalls', hformed', hcalls, hformed]
      exact ⟨List.append_assoc _ _ _, rfl⟩

theorem bind_pure (h : r.Follows x k) (g : α → β) : r.Follows (x >>= fun a => pure (g a)) k := by
  intro s hs
  have hx := h s hs
  rw [run_bind]
  rcases hrun : x.run s with ⟨cause | a, t⟩ <;> rwa [hrun] at hx

end Follows

theorem follows_spliceCall (d : Draft) (id args : String) :
    r.Follows (spliceCall r d id args) (r.courseOfCall id args) := by
  intro s _
  simp only [spliceCall, courseOfCall]
  cases r.function? id with
  | none => exact ⟨(List.append_nil _).symm, rfl⟩
  | some f =>
      dsimp only
      rw [run_bind_ok (run_modify _ _)]
      cases f.execute (argumentsOf args) <;> exact ⟨rfl, rfl⟩

theorem yields_nested (n : Nat) {e : Expression} (he : r.Holds e) :
    r.Yields (fun _ => none) (r.nested n e) (r.expand n e.source) := by
  have hreuse : r.Yields (fun _ => none) (r.nested n e) (r.formOf _ n (r.expandFrom (fun _ => none) n) e) :=
    yields_reuse (yields_source n) e he
  rwa [expandFrom_none] at hreuse

section Levels

variable {n : Nat} (h : ∀ source, r.Follows (Compiling.source r n source) (r.course n source))

include h

/-- An expression that has a form makes no calls, and another makes those of its course. -/
theorem follows_nested (e : Expression) : r.Follows (r.nested n e) (.enter e (r.course n e.source)) := by
  intro s hs
  rw [Course.calls_enter, Course.formed_enter, completes_course]
  cases hpub : s.published? e with
  | some c =>
      have hknown : s.isCompiled e = true := by simp [Store.isCompiled, hpub]
      rw [run_nested_of_published hpub, if_pos hknown, if_pos hknown]
      exact ⟨(List.append_nil _).symm, rfl⟩
  | none =>
      have hknown : ¬s.isCompiled e = true := by simp [Store.isCompiled, hpub]
      obtain ⟨t, hrun, -, -⟩ := yields_source n e.source s hs
      rw [expandFrom_none] at hrun
      have hrun' : (⟨n, e, s⟩ : Compilation).run r = (r.expand n e.source, t) := hrun
      have hsource := h e.source s hs
      rw [hrun] at hsource
      rw [run_nested_of_unpublished hpub, hrun', if_neg hknown, if_neg hknown]
      cases r.expand n e.source with
      | error cause => exact hsource
      | ok c => exact ⟨(t.calls_publish e c).trans hsource.1, by rw [Store.isCompiled_publish, hsource.2]; rfl⟩

theorem follows_mapM {es : List Expression} (hes : ∀ e ∈ es, r.Holds e) :
    r.Follows (es.mapM (r.nested n)) (.join (es.map fun e => .enter e (r.course n e.source))) := by
  induction es with
  | nil => exact .nothing rfl rfl fun _ => rfl
  | cons e es ih =>
      obtain ⟨he, hes⟩ := List.forall_mem_cons.1 hes
      have hcompletes : (Course.enter e (r.course n e.source)).completes = (r.expand n e.source).isOk := by
        rw [Course.completes_enter, completes_course]
      rw [List.mapM_cons]
      exact (follows_nested h e).bind (yields_nested n he) hcompletes fun c _ => (ih hes).bind_pure (c :: ·)

theorem follows_spliceToken (d : Draft) (t : Token) :
    r.Follows (spliceToken r (r.nested n) d t) (r.courseOfToken (fun e => r.course n e.source) t) := by
  cases t with
  | call id args => exact follows_spliceCall d id args
  | reference id =>
      simp only [spliceToken, spliceReference, courseOfToken]
      cases hes : r.resolve? id with
      | none => exact .nothing rfl rfl fun _ => rfl
      | some es => exact (follows_mapM h (holds_of_resolve? hes)).bind_pure (d.splice id)
  | text | escape | charClass | groupOpen | namedOpen | specialOpen => exact .nothing rfl rfl fun _ => rfl

theorem follows_foldlM (ts : List Token) (d : Draft) :
    r.Follows (ts.foldlM (spliceToken r (r.nested n)) d)
      (.join (ts.map (r.courseOfToken fun e => r.course n e.source))) := by
  induction ts generalizing d with
  | nil => exact .nothing rfl rfl fun _ => rfl
  | cons t ts ih =>
      have hcompletes := completes_courseOfToken (r := r) (fun e => r.completes_course n e.source) d t
      rw [List.foldlM_cons]
      exact (follows_spliceToken h d t).bind (yields_spliceToken (fun _ he => yields_nested n he) d t)
        hcompletes fun d' _ => ih d'

end Levels

theorem follows_source (n : Nat) (source : String) :
    r.Follows (Compiling.source r n source) (r.course n source) := by
  induction n generalizing source with
  | zero => exact .nothing rfl rfl fun _ => rfl
  | succ n ih =>
      have hcompletes := completes_courseOfTokens (r := r) (fun e => r.completes_course n e.source) (lex source)
      rw [source_succ, course]
      refine (follows_foldlM ih (lex source) .empty).bind
        (yields_foldlM (fun _ he => yields_nested n he) _ _) (hcompletes .empty) fun d _ => ?_
      cases (r.expand (n + 1) source).isOk <;> exact .nothing rfl rfl fun s => by rw [run_liftExcept]

end Registry

namespace Request

variable {r : Registry} {s : Store}

theorem source_begin (q : Request) (s : Store) : (q.begin s).1.source = q.text := by
  cases q <;> rfl

theorem calls_compile (q : Request) (h : r.Memo (fun _ => none) s) :
    ((q.compile r).run s).2.calls = s.calls ++ (q.course r s).calls s.isCompiled ∧
      ((q.compile r).run s).2.isCompiled = (q.course r s).formed s.isCompiled := by
  have hfollows := Registry.follows_nested (Registry.follows_source (r.options.maxDepth + 1)) (q.begin s).1
    (q.begin s).2 (q.memo_begin h)
  rw [compile_eq_nested]
  cases q <;> exact hfollows

end Request

namespace Registry.Serves

variable {r : Registry} {o : Options} {ds : List Definition} {s : Store}

theorem after (h : Serves o ds r s) {qs : List Request} (hqs : ∀ q ∈ qs, r.Knows q) :
    Serves o ds r (Request.after r qs s) := by
  induction qs generalizing s with
  | nil => exact h
  | cons q qs ih =>
      obtain ⟨hq, hqs⟩ := List.forall_mem_cons.1 hqs
      exact ih (h.compile hq) hqs

theorem isCompiled_after (h : Serves o ds r s) {qs : List Request} (hqs : ∀ q ∈ qs, r.Knows q) {e : Expression}
    (he : s.isCompiled e) : (Request.after r qs s).isCompiled e := by
  induction qs generalizing s with
  | nil => exact he
  | cons q qs ih =>
      obtain ⟨hq, hqs⟩ := List.forall_mem_cons.1 hqs
      refine ih (h.compile hq) hqs ?_
      rw [(q.calls_compile h.memo).2]
      exact Course.formed_of_known he

/-- Functions are called where inlining needs them, and nowhere else. A request, whatever requests have been
made ahead of it, makes the calls that the expansion of its source meets from left to right, up to the
first error, but for those inside expressions that have a form when they are met: the ones published
before it, and the ones that its expansion has gone through by then. From the time on at which an
expression is published, what is met inside it makes no difference. -/
theorem calls_of_compile (h : Serves o ds r s) (qs : List Request) (hqs : ∀ q ∈ qs, r.Knows q) {q : Request}
    (hq : r.Knows q) :
    let u := Request.after r qs s
    let t := ((q.compile r).run u).2
    t.calls = u.calls ++ (q.course r u).calls u.isCompiled ∧
      t.isCompiled = (q.course r u).formed u.isCompiled ∧
        (q.course r u).completes = ((q.compile r).run u).1.isOk ∧
          ∀ e, s.isCompiled e →
            (q.course r u).calls u.isCompiled = ((q.course r u).without e).calls u.isCompiled := by
  intro u t
  have hafter : Serves o ds r u := h.after hqs
  -- the course is that of the contents, whatever the store has by now
  obtain ⟨hcalls, hformed⟩ := q.calls_compile hafter.memo
  refine ⟨hcalls, hformed, ?_, fun e he => (Course.calls_without (h.isCompiled_after hqs he)).symm⟩
  rw [hafter.result_eq hq, Request.course, Course.completes_enter, completes_course, q.source_begin,
    hafter.options_eq]

/-- The first source fails for its last call, when the variant has been gone through once. The variant is then
published, and another source makes no call for it. -/
theorem calls_of_compile_midway :
    let ds : List Definition := [.function "range" .range, .expression "a" "${range(1,2)}"]
    let w := ofDefinitions ⟨.none, 2⟩ ds .empty
    let q := Request.source "${a}${a}${f(3)}${range(3,4)}"
    let q' := Request.source "x${a}${range(5)}"
    let s := ((q.compile w.1).run w.2).2
    Serves ⟨.none, 2⟩ ds w.1 w.2 ∧ w.1.Knows q ∧ w.1.Knows q' ∧ (q.course w.1 w.2).completes = false ∧
      s.calls = [⟨"range", ["1", "2"], true⟩] ∧ s.isCompiled ⟨0, "${range(1,2)}"⟩ ∧
        ((q'.compile w.1).run s).2.calls = [⟨"range", ["1", "2"], true⟩, ⟨"range", ["5"], true⟩] := by
  intro ds w q q' s
  have hserves : Serves ⟨.none, 2⟩ ds w.1 w.2 := .define (by simp [Store.empty]) rfl
  have hknows : w.1.Knows q := trivial
  have hknows' : w.1.Knows q' := trivial
  obtain ⟨hcalls, hformed, -, -⟩ := hserves.calls_of_compile [] (by simp) (q := q) hknows
  obtain ⟨hcalls', -, -, -⟩ := hserves.calls_of_compile [q] (by simpa using hknows) (q := q') hknows'
  have hfirst : s.calls = [⟨"range", ["1", "2"], true⟩] :=
    hcalls.trans (by decide +kernel)
  refine ⟨hserves, hknows, hknows', by decide +kernel, hfirst, ?_, hcalls'.trans ?_⟩
  · exact (congrFun hformed _).trans (by decide +kernel)
  · have hlater : Request.after w.1 [q] w.2 = s := rfl
    rw [hlater, hfirst]
    decide +kernel

end Registry.Serves

end Patchwork
