import Mathlib.Data.List.Induction
import Patchwork.Match.Query
import Patchwork.Proofs.Decomposition
import Patchwork.Proofs.Regex.Places

namespace Patchwork

namespace Match

open CompiledExpression

variable {c : CompiledExpression} {text : String} {m s : Match} {key : GroupKey}

def LiesInText (m : Match) : Prop := ∀ span, some span ∈ m.spans → Text.covers m.text span

theorem LiesInText.matchOf {spans : List (Option Span)}
    (h : ∀ span, some span ∈ spans → Text.covers text span) : (c.matchOf text spans).LiesInText := by
  intro span hspan
  obtain ⟨i, -, hi⟩ := List.mem_map.1 hspan
  cases hget : spans[i]? with
  | none =>
      rw [hget] at hi
      cases hi
  | some group =>
      rw [hget] at hi
      cases hi
      exact h span (List.mem_of_getElem? hget)

theorem LiesInText.sub (h : m.LiesInText) {id : String} {k : Nat} (hs : m.subMatch? id k = some s) :
    s.LiesInText := by
  obtain ⟨a, vs, i, -, -, -, -, hwindow⟩ := window?_of_subMatch? hs
  obtain ⟨-, heq⟩ := eq_of_window? hwindow
  rw [heq]
  exact fun span hspan => h span (List.mem_of_mem_drop (List.mem_of_mem_take hspan))

theorem Arises.liesInText (h : m.Arises c text) : m.LiesInText := by
  have hfind : ∀ {r : Regex} {position : Nat} {m : Match},
      (r.find? text position).map (c.matchOf text) = some m → m.LiesInText := by
    intro r position m h
    obtain ⟨spans, hspans, rfl⟩ := Option.map_eq_some_iff.1 h
    exact .matchOf fun span => Regex.covers_of_find? hspans
  induction h with
  | find h | findAt h | lookingAt h => exact hfind h
  | all h =>
      obtain ⟨spans, hspans, rfl⟩ := List.mem_map.1 h
      exact .matchOf fun span =>
        Regex.covers_of_mem_allFrom (Regex.Cursor.lies_start text) hspans
  | sub _ hs ih => exact ih.sub hs

structure Answers (m : Match) (key : GroupKey) : Prop where
  span : m.querySpan key = .ok (m.span? key)
  text : m.queryText key = .ok (m.get? key)
  start : m.queryStart key = .ok (m.start? key)
  stop : m.queryStop key = .ok (m.stop? key)

structure Reports (m : Match) : Prop where
  matched : m.queryMatched = .ok m.matched
  range : m.queryRange = .ok m.range
  values : m.queryValues = .ok m.values
  named : m.queryNamed = .ok m.namedGroups
  groups : m.queryGroups = .ok m.groups

theorem LiesInText.textAt_eq (h : m.LiesInText) {span : Span} (hspan : some span ∈ m.spans) :
    m.textAt span = .ok (Text.slice m.text span) := if_pos (h span hspan)

theorem mem_spans_of_span? {span : Span} (h : m.span? key = some span) : some span ∈ m.spans := by
  obtain ⟨i, -, hi⟩ := Option.bind_eq_some_iff.1 h
  exact List.mem_of_getElem? (Option.join_eq_some_iff.1 hi)

theorem querySpan_eq (hindex : ∀ i, m.index? key = some i → i < m.groupCount) :
    m.querySpan key = .ok (m.span? key) := by
  simp only [querySpan, span?]
  cases hkey : m.index? key with
  | none => rfl
  | some i =>
      have hi : i < m.spans.length := hindex i hkey
      simp [groupAt, spanAt?, hi]

theorem LiesInText.answers (h : m.LiesInText) (hindex : ∀ i, m.index? key = some i → i < m.groupCount) :
    m.Answers key := by
  have hspan := querySpan_eq hindex
  have htext : m.queryText key = .ok (m.get? key) := by
    simp only [queryText, hspan, get?]
    cases hget : m.span? key with
    | none => rfl
    | some span =>
        have hslice := h.textAt_eq (mem_spans_of_span? hget)
        exact congrArg (Functor.map some) hslice
  exact ⟨hspan, htext, by rw [queryStart, hspan]; rfl, by rw [queryStop, hspan]; rfl⟩

theorem LiesInText.answers_index (h : m.LiesInText) (i : Nat) : m.Answers (.index i) := by
  refine h.answers fun j hj => ?_
  simp only [index?] at hj
  split at hj
  · cases hj
    assumption
  · cases hj

theorem querySpan_eq_error {name : String} {i : Nat} (hi : m.groupIndex? name = some i)
    (hge : m.groupCount ≤ i) : m.querySpan (.name name) = .error (.noGroup i) := by
  have hnone : m.spans[i]? = none := List.getElem?_eq_none hge
  simp [querySpan, index?, hi, groupAt, hnone]

theorem LiesInText.answers_name_iff (h : m.LiesInText) (name : String) :
    m.Answers (.name name) ↔ ∀ i, m.groupIndex? name = some i → i < m.groupCount := by
  refine ⟨fun hanswers i hi => ?_, fun hindex => h.answers hindex⟩
  by_contra hge
  have hspan := hanswers.span
  rw [querySpan_eq_error hi (Nat.le_of_not_lt hge)] at hspan
  cases hspan

theorem LiesInText.queryValues_eq (h : m.LiesInText) : m.queryValues = .ok m.values := by
  have hall : ∀ spans : List (Option Span), (∀ span, some span ∈ spans → some span ∈ m.spans) →
      (spans.mapM fun span => span.mapM m.textAt : Query _) =
        .ok (spans.map fun span => span.map (Text.slice m.text)) := by
    intro spans hspans
    induction spans with
    | nil => rfl
    | cons span spans ih =>
        have hfirst : (span.mapM m.textAt : Query _) = .ok (span.map (Text.slice m.text)) := by
          cases span with
          | none => rfl
          | some span => exact congrArg (Functor.map some) (h.textAt_eq (hspans span List.mem_cons_self))
        rw [List.mapM_cons, hfirst, ih fun span hspan => hspans span (List.mem_cons_of_mem _ hspan)]
        rfl
  exact hall m.spans fun _ hspan => hspan

theorem foldlM_eq_ok {α β : Type} {f : β → α → Query β} {g : β → α → β} (h : ∀ acc a, f acc a = .ok (g acc a))
    (entries : List α) (acc : β) : entries.foldlM f acc = .ok (entries.foldl g acc) := by
  induction entries generalizing acc with
  | nil => rfl
  | cons a entries ih =>
      rw [List.foldlM_cons, List.foldl_cons, h]
      exact ih (g acc a)

theorem LiesInText.queryNamed_eq (h : m.LiesInText) : m.queryNamed = .ok m.namedGroups := by
  rw [queryNamed, namedGroups]
  refine foldlM_eq_ok (fun acc e => ?_) m.expression.names.toList []
  rw [(h.answers_index e.1).text]
  by_cases hany : acc.any (·.1 = e.2)
  · rw [if_pos hany, if_pos hany]
    rfl
  · rw [if_neg hany, if_neg hany]
    cases m.get? (.index e.1) <;> rfl

theorem get?_index (m : Match) (i : Nat) : m.get? (.index i) = m.values[i]?.join := by
  by_cases hi : i < m.spans.length <;> simp [get?, span?, index?, values, spanAt?, hi]

theorem filterMap_zipIdx {β γ : Type} (xs : List (Option β)) (f : Nat → β → γ) :
    (xs.zipIdx.filterMap fun v => v.1.map (f v.2)) =
      (List.range xs.length).filterMap fun i => xs[i]?.join.map (f i) := by
  induction xs using List.reverseRecOn with
  | nil => rfl
  | append_singleton xs x ih =>
      have hfirst : (List.range xs.length).filterMap (fun i => (xs ++ [x])[i]?.join.map (f i)) =
          (List.range xs.length).filterMap fun i => xs[i]?.join.map (f i) :=
        List.filterMap_congr fun i hi => by rw [List.getElem?_append_left (List.mem_range.1 hi)]
      rw [List.zipIdx_append, List.filterMap_append, ih, List.length_append, List.length_singleton,
        List.range_succ, List.filterMap_append, hfirst]
      cases x <;> simp

theorem LiesInText.reports (h : m.LiesInText) : m.Reports where
  matched := by
    rw [queryMatched, (h.answers_index 0).text]
    rfl
  range := by
    rw [queryRange, (h.answers_index 0).span]
    rfl
  values := h.queryValues_eq
  named := h.queryNamed_eq
  groups := by
    have hlength : m.values.length = m.groupCount := by simp [values, groupCount]
    have hvalues := filterMap_zipIdx m.values fun i value => (GroupKey.index i, value)
    rw [hlength] at hvalues
    simp only [← get?_index] at hvalues
    rw [queryGroups, h.queryValues_eq, h.queryNamed_eq, groups, ← hvalues]
    rfl

theorem exists_name_of_groupIndex? {name : String} {i : Nat} (h : m.groupIndex? name = some i) :
    ∃ other, m.expression.names.get? i = some other := by
  have hmem : i ∈ m.expression.names.indicesOf name := by
    rcases Option.or_eq_some_iff.1 h with h | ⟨-, h⟩
    · exact List.mem_of_find?_eq_some h
    · exact List.mem_of_mem_head? h
  obtain ⟨e, he, rfl⟩ := List.mem_map.1 hmem
  have hfound : (m.expression.names.toList.find? fun e' => e'.1 = e.1).isSome :=
    List.find?_isSome.2 ⟨e, (List.mem_filter.1 he).1, by simp⟩
  obtain ⟨e', he'⟩ := Option.isSome_iff_exists.1 hfound
  exact ⟨e'.2, by rw [GroupMap.get?, he', Option.map_some]⟩

theorem groupIndex?_lt (hsound : m.expression.Sound) (hlength : m.spans.length = m.expression.groupCount)
    {name : String} {i : Nat} (h : m.groupIndex? name = some i) : i < m.groupCount := by
  obtain ⟨other, hother⟩ := exists_name_of_groupIndex? h
  rw [hsound.table i] at hother
  have hget : (m.expression.table)[i]? = some (some other) := Option.join_eq_some_iff.1 hother
  obtain ⟨hlt, -⟩ := List.getElem?_eq_some_iff.1 hget
  rwa [groupCount, hlength, ← m.expression.length_table]

end Match

namespace Registry

variable {kind : Kind} {r : Registry} {s t : Store} {source : String} {c : CompiledExpression}

/-- Of a match that was found, and of every sub-match that is taken from it, all queries by number and for
the whole are answered. A query by name is answered exactly where the table of names has no other number for
it than those of the match, and fails for that number where it has; where sources and functions are orderly,
all queries are answered. -/
theorem answers_of_arises {o : Options} (h : Reached kind o r s) (hkind : kind.source source)
    (hc : (r.compile source).run s = (.ok c, t)) {text : String} {m : Match} (hm : m.Arises c text) :
    m.Reports ∧ (∀ i, m.Answers (.index i)) ∧
      (∀ name, m.Answers (.name name) ↔ ∀ i, m.groupIndex? name = some i → i < m.groupCount) ∧
      (∀ name i, m.groupIndex? name = some i → m.groupCount ≤ i →
        m.querySpan (.name name) = .error (.noGroup i)) ∧
      (kind.Orderly → ∀ key, m.Answers key) := by
  have hlies := hm.liesInText
  have hwoven := hm.woven (h.woven_of_compile hkind hc)
  refine ⟨hlies.reports, hlies.answers_index, hlies.answers_name_iff,
    fun name i => Match.querySpan_eq_error, fun horderly key => ?_⟩
  cases key with
  | index i => exact hlies.answers_index i
  | name name =>
      exact hlies.answers fun i => Match.groupIndex?_lt (hwoven.sound horderly) hm.length_spans

/-- The second of two groups of one name stands in a block that took part. -/
theorem answers_of_arises_name :
    let w := (Definition.expression "a" "(?<n>y)").apply (withOptions ⟨.standard, 2⟩, .empty)
    let source := "(?<n>x)?${a}"
    Reached .tidy ⟨.standard, 2⟩ w.1 w.2 ∧ Tidy source ∧
      ∃ c t root m, (w.1.compile source).run w.2 = (.ok c, t) ∧ c.find? "y" = some root ∧
        root.subMatch? "a" 0 = some m ∧ root.Answers (.name "n") ∧ root.groupIndex? "n" = some 3 ∧
        m.Reports ∧ m.Answers (.name "n") := by
  intro w source
  have hdefinitions : ∀ d ∈ [Definition.expression "a" "(?<n>y)"], d.Permitted .tidy :=
    List.forall_mem_singleton.2 (show Tidy "(?<n>y)" by decide +kernel)
  have hreached : Reached .tidy ⟨.standard, 2⟩ w.1 w.2 := reached_of_definitions _ hdefinitions
  have htidy : Tidy source := by decide +kernel
  have hok : ((w.1.compile source).run w.2).1.toOption.any fun c : CompiledExpression =>
      (c.find? "y").any fun root => decide ((root.subMatch? "a" 0).isSome ∧
        root.groupIndex? "n" = some 3) := by decide +kernel
  obtain ⟨c, t, hrun, hc⟩ := Compiling.exists_run_of_any hok
  obtain ⟨root, hroot, hfound⟩ := (Option.any_eq_true _ _).1 hc
  obtain ⟨hsub, hindex⟩ := of_decide_eq_true hfound
  obtain ⟨m, hm⟩ := Option.isSome_iff_exists.1 hsub
  have harises : root.Arises c "y" := .find hroot
  obtain ⟨-, -, -, -, hanswers⟩ := answers_of_arises hreached htidy hrun harises
  obtain ⟨hreports, -, -, -, hanswers'⟩ := answers_of_arises hreached htidy hrun (harises.sub hm)
  exact ⟨hreached, htidy, c, t, root, m, hrun, hroot, hm, hanswers Kind.orderly_tidy _, hindex, hreports,
    hanswers' Kind.orderly_tidy _⟩

/-- A source that ends within a class as the lexer reads it hides the groups of the blocks behind it, while
their names are numbered as if they were there. -/
theorem exists_noGroup :
    let w := (Definition.expression "a" "(?<n>q)").apply
      ((Definition.expression "b" "[A-[]").apply (standard, .empty))
    ∃ c t m, (w.1.compile "[[]](]][[]](]]${b}${a}").run w.2 = (.ok c, t) ∧
      c.find? "(](]Bq" = some m ∧ m.groupCount = 4 ∧
        m.querySpan (.name "n") = .error (.noGroup 5) := by
  intro w
  have hok : ((w.1.compile "[[]](]][[]](]]${b}${a}").run w.2).1.toOption.any
      fun c : CompiledExpression => (c.find? "(](]Bq").any fun m =>
        decide (m.groupIndex? "n" = some 5 ∧ m.groupCount = 4) := by decide +kernel
  obtain ⟨c, t, hrun, hc⟩ := Compiling.exists_run_of_any hok
  obtain ⟨m, hm, hfound⟩ := (Option.any_eq_true _ _).1 hc
  obtain ⟨hindex, hcount⟩ := of_decide_eq_true hfound
  exact ⟨c, t, m, hrun, hm, hcount, Match.querySpan_eq_error hindex (by omega)⟩

end Registry

end Patchwork
