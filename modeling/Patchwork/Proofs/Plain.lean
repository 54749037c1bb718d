import Patchwork.Proofs.Regex.Kept
import Patchwork.Proofs.Regex.Unnaming
import Patchwork.Proofs.Token.Forms
import Patchwork.Proofs.Wrapping

namespace Patchwork

open Token

namespace Token

def isPlain : Token → Bool
  | reference _ | call _ _ => false
  | _ => true

end Token

def IsPlain (source : String) : Prop := ∀ t ∈ lex source, t.isPlain = true

instance : DecidablePred IsPlain := fun source =>
  inferInstanceAs (Decidable (∀ t ∈ lex source, t.isPlain = true))

theorem isPlain_of_not_mem {source : String} (h : '{' ∉ source.toList) : IsPlain source := by
  intro t ht
  have hmem : ∀ c ∈ t.chars, c ∈ source.toList := fun c hc => by
    rw [← renders_lex]
    exact List.mem_flatMap.2 ⟨t, ht, hc⟩
  cases t with
  | reference id => exact absurd (hmem '{' (by rw [chars_reference_eq]; simp)) h
  | call id args => exact absurd (hmem '{' (by rw [chars_call_eq]; simp)) h
  | text | escape | charClass | groupOpen | namedOpen | specialOpen => rfl

namespace Compiling

variable {r : Registry} {compile : Expression → Compiling CompiledExpression} {source : String} {s : Store}

theorem spliceToken_plain {t : Token} (ht : t.isPlain) (d : Draft) :
    spliceToken r compile d t = pure (d.append t.render) := by
  cases t with
  | reference | call => cases ht
  | text | escape | charClass | groupOpen | namedOpen | specialOpen => rfl

theorem foldlM_plain {ts : List Token} (hts : ∀ t ∈ ts, t.isPlain) (d : Draft) :
    ts.foldlM (spliceToken r compile) d = pure { d with text := d.text ++ String.ofList (renders ts) } := by
  induction ts generalizing d with
  | nil => simp
  | cons t ts ih =>
      obtain ⟨ht, hts⟩ := List.forall_mem_cons.1 hts
      rw [List.foldlM_cons, spliceToken_plain ht, pure_bind, ih hts]
      refine congrArg _ (congrArg (fun text => { d with text }) ?_)
      rw [Draft.append, String.append_assoc, renders_cons, String.ofList_append, chars, String.ofList_toList]

theorem run_source_plain (hplain : IsPlain source) (levels : Nat) (s : Store) :
    (Compiling.source r (levels + 1) source).run s =
      (assemble r.options.flags source { Draft.empty with text := source }, s) := by
  have hdraft : { Draft.empty with text := Draft.empty.text ++ String.ofList (renders (lex source)) } =
      { Draft.empty with text := source } := by
    rw [renders_lex, String.ofList_toList]
    simp [Draft.empty]
  rw [Compiling.source, foldlM_plain hplain, pure_bind, hdraft, run_liftExcept]

theorem exists_run_reuse {limit levels : Nat} {compile : String → Compiling CompiledExpression} {e : Expression}
    {t : Store} {result : Except CompileError CompiledExpression} (hnone : s.published? e = none)
    (hrun : (compile e.source).run s = (result, t)) :
    ∃ t', (reuse limit levels compile e).run s = (result, t') := by
  simp only [reuse, run_bind_ok (run_get s), hnone]
  cases result with
  | error cause => exact ⟨t, run_bind_error hrun⟩
  | ok c => exact ⟨t.publish e c, by rw [run_bind_ok hrun, run_bind_ok (run_modify _ t)]; rfl⟩

theorem exists_run_compile_of_source {t : Store} {result : Except CompileError CompiledExpression}
    (hissued : ∀ p ∈ s.published, p.1 < s.nextSerial)
    (hrun : (Compiling.source r (r.options.maxDepth + 1) source).run (s.create source).2 = (result, t)) :
    ∃ t', (r.compile source).run s = (result, t') := by
  have hfresh : (s.create source).2.published? (s.create source).1 = none := by
    simp only [Store.published?, Store.create, Option.map_eq_none_iff, List.find?_eq_none]
    exact fun p hp => by simp [Nat.ne_of_lt (hissued p hp)]
  exact exists_run_reuse hfresh hrun

theorem exists_run_compile_plain (hplain : IsPlain source) (hissued : ∀ p ∈ s.published, p.1 < s.nextSerial) :
    ∃ t, (r.compile source).run s =
      (assemble r.options.flags source { Draft.empty with text := source }, t) :=
  exists_run_compile_of_source hissued (run_source_plain hplain _ _)

theorem exists_assemble {flags : ModeFlags} {regex anchored : Regex}
    (hregex : Regex.compile? (flags.directive ++ (renumber source).body) = some regex)
    (hanchored : Regex.compile? (flags.directive ++ "\\A(?:" ++ (renumber source).body ++ ")") = some anchored)
    (hcount : regex.groupCount = (renumber source).groupCount) :
    ∃ c, assemble flags source { Draft.empty with text := source } = .ok c ∧ c.regex = regex ∧
      c.groupCount = regex.groupCount ∧ ∀ i, c.names.get? i = (renumber source).names.get? i := by
  obtain ⟨c, hc⟩ := exists_assemble_of_accepted source { Draft.empty with text := source } hregex hanchored hcount
  obtain ⟨regex', anchored', hregex', -, -, rfl⟩ := assemble_eq_ok hc
  cases hregex.symm.trans hregex'
  refine ⟨_, hc, rfl, hcount.symm, fun i => ?_⟩
  have hnone : (Draft.empty.names).get? i = none := rfl
  rw [GroupNames.get?_absorb, if_pos (Nat.zero_le i), hnone, Option.or_none, Nat.sub_zero]

end Compiling

namespace Regex

open Builder

variable {flags : ModeFlags} {source pattern : String} {engine : Regex}

theorem pattern_of_compile? (h : compile? pattern = some engine) : engine.pattern = pattern := by
  obtain ⟨form, -, heq⟩ := Option.bind_eq_some_iff.1 h
  cases heq
  rfl

theorem exists_compile?_anchored {body : String} (h : compile? (flags.directive ++ body) = some engine)
    (hterse : (Tree.parse? (flags.directive ++ body).toList).all Tree.isTerse)
    (hroomy : roomy (flags.directive ++ body)) :
    ∃ anchored, compile? (flags.directive ++ "\\A(?:" ++ body ++ ")") = some anchored := by
  rcases compile?_close h with ⟨-, haccepted⟩ | ⟨htaken, -⟩
  · obtain ⟨anchored, hanchored, -⟩ := haccepted hroomy
    exact ⟨anchored, hanchored⟩
  · rw [compile?_close_eq_none h (.inr hterse)] at htaken
    cases htaken

theorem toList_body (flags : ModeFlags) (source : String) :
    (flags.directive ++ (renumber source).body).toList =
      Marked.chars (marks (flags.directive ++ source).toList) := by
  rw [flags.marks_directive, Marked.chars_append, Marked.chars_plain, String.toList_append,
    (renumber_reads source).body]

def names (pattern : String) : List (Nat × String) := ((Tree.parse? pattern.toList).map Tree.named).getD []

/-- The engine reads a source as it stands to the end of its text, and never in verbose mode. What is left of
the source without names has the same tree, but for the names. -/
structure Reading (flags : ModeFlags) (source : String) (b : Builder) : Prop where
  reads : Reads .empty (flags.directive ++ source).toList b []
  closed : b.outer = []
  tree : Tree.parse? (flags.directive ++ source).toList = some b.level.finish
  body : Tree.parse? (flags.directive ++ (renumber source).body).toList = some b.level.finish.unname
  alike : ∀ s ∈ Marked.classes (marks (flags.directive ++ source).toList), ClosesAlike s

theorem exists_reading (haccepted : compile? (flags.directive ++ source) = some engine)
    (hterse : (Tree.parse? (flags.directive ++ source).toList).all Tree.isTerse)
    (halike : ∀ s ∈ Marked.classes (marks source.toList), ClosesAlike s) :
    ∃ b, Reading flags source b := by
  obtain ⟨b, form, after, hrun, hclosed, hparse, hresolve, -⟩ := exists_run_of_compile? haccepted
  have hsettled := settled_of_terse hterse hparse hclosed hresolve
  have hclasses : ∀ s ∈ Marked.classes (marks (flags.directive ++ source).toList), ClosesAlike s := by
    rwa [flags.marks_directive, Marked.classes_append, Marked.classes_plain]
  have hbody : run ((flags.directive ++ (renumber source).body).toList.length + 1) .empty
      (flags.directive ++ (renumber source).body).toList = some b.unname := by
    rw [toList_body]
    exact run_marks steady_empty hrun hsettled hclasses (Nat.lt_succ_self _)
  have hfinish : b.unname.level.finish = b.level.finish.unname := b.level.finish_relabel _
  have hclosed' : b.unname.outer = [] := by rw [Builder.unname, hclosed, List.map_nil]
  exact ⟨b, reads_of_run steady_empty hrun hsettled, hclosed, hparse,
    hfinish ▸ parse?_of_run hbody hclosed', hclasses⟩

namespace Reading

variable {b : Builder}

theorem compile?_body (h : Reading flags source b)
    (haccepted : compile? (flags.directive ++ source) = some engine) :
    compile? (flags.directive ++ (renumber source).body) =
      some ⟨flags.directive ++ (renumber source).body, engine.machine, engine.groupCount⟩ := by
  have hform : form? (flags.directive ++ (renumber source).body).toList =
      form? (flags.directive ++ source).toList := by
    simp only [form?, h.body, h.tree, Option.bind_eq_bind, Option.bind_some, Tree.depth_unname,
      Tree.resolve?_unname]
  obtain ⟨form, hsome, heq⟩ := Option.bind_eq_some_iff.1 haccepted
  cases heq
  rw [compile?, hform, hsome]
  rfl

theorem terse_body (h : Reading flags source b)
    (hterse : (Tree.parse? (flags.directive ++ source).toList).all Tree.isTerse) :
    (Tree.parse? (flags.directive ++ (renumber source).body).toList).all Tree.isTerse := by
  rw [h.tree] at hterse
  rwa [h.body, Option.all_some, Tree.isTerse_unname]

theorem roomy_body (h : Reading flags source b) (hroomy : roomy (flags.directive ++ source)) :
    roomy (flags.directive ++ (renumber source).body) := by
  rw [roomy, h.tree, Option.any_some] at hroomy
  rwa [roomy, h.body, Option.any_some, Tree.resolve?_unname, Tree.depth_unname]

theorem titled (h : Reading flags source b) : b.Titled (Marked.names (marks source.toList)) := by
  have htitled := h.reads.titled h.alike titled_empty
  rwa [flags.marks_directive, Marked.names_append, Marked.names_plain] at htitled

theorem labels_eq (h : Reading flags source b) : b.labels = b.level.labels := by
  simp [labels, h.closed]

theorem groupCount_eq (h : Reading flags source b)
    (haccepted : compile? (flags.directive ++ source) = some engine) (hkeeps : b.level.finish.keepsGroups) :
    engine.groupCount = countCapturing source + 1 := by
  obtain ⟨b', form, after, -, -, hparse, hresolve, rfl⟩ := exists_run_of_compile? haccepted
  rw [h.tree] at hparse
  rw [← Option.some.inj hparse] at hresolve
  have hgroups : ∀ i, i ∈ b.level.finish.groups ↔ 0 < i ∧ i ≤ b.captures := fun i =>
    (h.reads.distinct (above_empty.distinct rfl)).mem_groups_finish h.closed
  have hlast := Tree.lastGroup_eq hkeeps hresolve hgroups
  rw [countCapturing_eq, ← h.titled.captures, ← hlast]

theorem mem_names_iff (h : Reading flags source b) (hkeeps : b.level.finish.keepsGroups) {i : Nat}
    {name : String} : (i, name) ∈ names (flags.directive ++ source) ↔
      (renumber source).names.get? i = some name := by
  rw [names, h.tree, Option.map_some, Option.getD_some, Tree.mem_named hkeeps, (b.level.labels_finish).mem_iff,
    ← h.labels_eq, h.titled.mem_iff, (renumber_reads source).names i]

end Reading

end Regex

namespace CompiledExpression

open Regex

variable {c : CompiledExpression} {engine : Regex}

structure Renders (c : CompiledExpression) (engine : Regex) : Prop where
  groupCount : c.groupCount = engine.groupCount
  names : ∀ i name, (i, name) ∈ c.names.toList ↔ (i, name) ∈ Regex.names engine.pattern
  find : ∀ text, (c.find? text).map (·.spans) = engine.find? text 0

theorem spans_matchOf {text : String} {spans : List (Option Span)} (h : spans.length = c.groupCount) :
    (c.matchOf text spans).spans = spans := by
  refine List.ext_getElem? fun i => ?_
  by_cases hi : i < c.groupCount
  · simp [matchOf, hi, h]
  · simp [matchOf, hi, h]

theorem spans_findAt? (hcount : c.regex.groupCount = c.groupCount) (text : String) (position : Nat) :
    (c.findAt? text position).map (·.spans) = c.regex.find? text position := by
  rw [findAt?, Option.map_map]
  cases hfind : c.regex.find? text position with
  | none => rfl
  | some spans =>
      obtain ⟨cursor, task, -, rfl⟩ := exists_of_find? hfind
      refine congrArg some (spans_matchOf ?_)
      rw [Regex.spans, List.length_map, List.length_range, hcount]

theorem find?_eq {pattern : String} (hregex : c.regex = ⟨pattern, engine.machine, engine.groupCount⟩)
    (hcount : c.groupCount = engine.groupCount) (text : String) :
    (c.find? text).map (·.spans) = engine.find? text 0 := by
  have hsame : c.regex.find? text 0 = engine.find? text 0 := by rw [hregex]; rfl
  rw [find?, spans_findAt? (by rw [hregex, hcount]), hsame]

end CompiledExpression

namespace Registry

open Regex

variable {r : Registry} {s : Store} {source : String} {engine : Regex}

/-- A source that has no references and no calls, and never switches verbose mode on, is compiled to what the
engine makes of it as it stands, if the engine closes its classes alike and leaves no group out. A group that
the engine leaves out shows in the number of groups alone: the source is refused if the last is left out. -/
theorem compile_plain (hissued : ∀ p ∈ s.published, p.1 < s.nextSerial) (hplain : IsPlain source)
    (haccepted : Regex.compile? (r.options.flags.directive ++ source) = some engine)
    (hterse : (Tree.parse? (r.options.flags.directive ++ source).toList).all Tree.isTerse)
    (hroomy : roomy (r.options.flags.directive ++ source))
    (halike : ∀ t ∈ Marked.classes (marks source.toList), ClosesAlike t) :
    ((Tree.parse? (r.options.flags.directive ++ source).toList).all Tree.keepsGroups →
        ∃ c t, (r.compile source).run s = (.ok c, t) ∧ c.Renders engine) ∧
      (engine.groupCount = countCapturing source + 1 → ∃ c t, (r.compile source).run s = (.ok c, t) ∧
        c.groupCount = engine.groupCount ∧ ∀ text, (c.find? text).map (·.spans) = engine.find? text 0) ∧
      (engine.groupCount ≠ countCapturing source + 1 → ∃ t, (r.compile source).run s =
        (.error (.groupCountMismatch (countCapturing source + 1) engine.groupCount), t)) := by
  obtain ⟨t, hrun⟩ := Compiling.exists_run_compile_plain hplain hissued
  obtain ⟨b, hreading⟩ := exists_reading haccepted hterse halike
  have hbody := hreading.compile?_body haccepted
  obtain ⟨anchored, hanchored⟩ :=
    exists_compile?_anchored hbody (hreading.terse_body hterse) (hreading.roomy_body hroomy)
  have hcount : (renumber source).groupCount = countCapturing source + 1 := by
    rw [(renumber_reads source).groupCount, countCapturing_eq, Nat.add_comm]
  have hok : engine.groupCount = countCapturing source + 1 → ∃ c, (r.compile source).run s = (.ok c, t) ∧
      c.groupCount = engine.groupCount ∧ (∀ text, (c.find? text).map (·.spans) = engine.find? text 0) ∧
        ∀ i, c.names.get? i = (renumber source).names.get? i := by
    intro hsame
    obtain ⟨c, hc, hregex, hgroups, hnames⟩ :=
      Compiling.exists_assemble hbody hanchored (hsame.trans hcount.symm)
    exact ⟨c, hrun.trans (by rw [hc]), hgroups, CompiledExpression.find?_eq hregex hgroups, hnames⟩
  refine ⟨fun hkeeps => ?_, fun hsame => ?_, fun hother => ⟨t, ?_⟩⟩
  · rw [hreading.tree, Option.all_some] at hkeeps
    obtain ⟨c, hc, hgroups, hfind, hnames⟩ := hok (hreading.groupCount_eq haccepted hkeeps)
    have hpattern : engine.pattern = r.options.flags.directive ++ source := pattern_of_compile? haccepted
    refine ⟨c, t, hc, hgroups, fun i name => ?_, hfind⟩
    rw [hpattern, hreading.mem_names_iff hkeeps, ← hnames i, GroupMap.get?_eq_some_iff]
  · obtain ⟨c, hc, hgroups, hfind, -⟩ := hok hsame
    exact ⟨c, t, hc, hgroups, hfind⟩
  · have herror := Compiling.assemble_of_mismatch source { Draft.empty with text := source } hbody hanchored
      fun hsame => hother (hsame.trans hcount)
    rw [hrun, herror, hcount]

/-- A class that opens with a bracket, an escaped parenthesis and two names that are found again; and a source
whose last group is left out. -/
theorem compile_plain_names :
    let source := "(?<n>[^]a\\]])+|\\((?P<m>b)"
    (∃ engine c t, Regex.compile? ("(?isu)" ++ source) = some engine ∧
      (standard.compile source).run .empty = (.ok c, t) ∧ c.Renders engine ∧ c.groupCount = 3 ∧
        (2, "m") ∈ c.names.toList ∧ (c.find? "a(b").isSome) ∧
    ∃ t, (standard.compile "(a){0}").run .empty = (.error (.groupCountMismatch 2 1), t) := by
  intro source
  have hissued : ∀ p ∈ Store.empty.published, p.1 < Store.empty.nextSerial := by simp [Store.empty]
  have hplain : ∀ text ∈ [source, "(a){0}"], IsPlain text := by decide +kernel
  have haccepted : (Regex.compile? (standard.options.flags.directive ++ source)).any fun engine =>
      decide (engine.groupCount = 3) && (engine.find? "a(b" 0).isSome := by decide +kernel
  have hdropped : (Regex.compile? (standard.options.flags.directive ++ "(a){0}")).any fun engine =>
      decide (engine.groupCount = 1) := by decide +kernel
  have hterse : ∀ text ∈ [source, "(a){0}"],
      (Tree.parse? (standard.options.flags.directive ++ text).toList).all Tree.isTerse := by decide +kernel
  have hroomy : ∀ text ∈ [source, "(a){0}"], roomy (standard.options.flags.directive ++ text) := by
    decide +kernel
  have halike : ∀ text ∈ [source, "(a){0}"], ∀ t ∈ Marked.classes (marks text.toList), ClosesAlike t := by
    decide +kernel
  have hkeeps : (Tree.parse? (standard.options.flags.directive ++ source).toList).all Tree.keepsGroups := by
    decide +kernel
  constructor
  · obtain ⟨engine, hengine, hfound⟩ := (Option.any_eq_true _ _).1 haccepted
    obtain ⟨hcount, hfind⟩ := (Bool.and_eq_true _ _).mp hfound
    obtain ⟨hcompiles, -, -⟩ := compile_plain hissued (hplain source (by simp)) hengine
      (hterse source (by simp)) (hroomy source (by simp)) (halike source (by simp))
    obtain ⟨c, t, hrun, hrenders⟩ := hcompiles hkeeps
    have hname : (2, "m") ∈ Regex.names (standard.options.flags.directive ++ source) := by decide +kernel
    refine ⟨engine, c, t, hengine, hrun, hrenders, ?_, ?_, ?_⟩
    · exact hrenders.groupCount.trans (of_decide_eq_true hcount)
    · rwa [hrenders.names, pattern_of_compile? hengine]
    · rw [← hrenders.find, Option.isSome_map] at hfind
      exact hfind
  · obtain ⟨engine, hengine, hcount⟩ := (Option.any_eq_true _ _).1 hdropped
    obtain ⟨-, -, hrefused⟩ := compile_plain hissued (hplain "(a){0}" (by simp)) hengine
      (hterse _ (by simp)) (hroomy _ (by simp)) (halike _ (by simp))
    have hopened : countCapturing "(a){0}" = 1 := by decide +kernel
    rw [hopened, of_decide_eq_true hcount] at hrefused
    exact hrefused (by decide)

/-- For the lexer the class does not end and hides the group, which the engine has. -/
theorem exists_groupCountMismatch :
    ∃ engine t, Regex.compile? "(?isu)[A-[](x)" = some engine ∧ engine.groupCount = 2 ∧
      (standard.compile "[A-[](x)").run .empty = (.error (.groupCountMismatch 1 2), t) := by
  have haccepted : (Regex.compile? "(?isu)[A-[](x)").any fun engine => decide (engine.groupCount = 2) := by
    decide +kernel
  have hrefused : (match ((standard.compile "[A-[](x)").run .empty).1 with
      | .error cause => decide (cause = .groupCountMismatch 1 2)
      | .ok _ => false) = true := by decide +kernel
  obtain ⟨engine, hengine, hcount⟩ := (Option.any_eq_true _ _).1 haccepted
  rcases hrun : (standard.compile "[A-[](x)").run .empty with ⟨result, t⟩
  rw [hrun] at hrefused
  cases result with
  | ok c => cases hrefused
  | error cause => exact ⟨engine, t, hengine, of_decide_eq_true hcount, by rw [of_decide_eq_true hrefused]⟩

end Registry

end Patchwork
