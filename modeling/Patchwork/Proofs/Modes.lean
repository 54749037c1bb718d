import Patchwork.Proofs.Plain

namespace Patchwork

namespace Regex

open Builder

structure Alike (r r' : Regex) : Prop where
  groupCount : r.groupCount = r'.groupCount
  search : ∀ c, r.searchFrom c = r'.searchFrom c

namespace Alike

variable {r r' : Regex}

theorem spans (h : r.Alike r') (t : Task) : r.spans t = r'.spans t := by
  rw [Regex.spans, Regex.spans, h.groupCount]

theorem find? (h : r.Alike r') (text : String) (position : Nat) :
    r.find? text position = r'.find? text position := by
  simp only [Regex.find?, h.search, h.spans]

theorem isMatch (h : r.Alike r') (text : String) : r.isMatch text = r'.isMatch text := by
  rw [Regex.isMatch, Regex.isMatch, h.search]

theorem nextFrom (h : r.Alike r') (lastEnd : Option Nat) (c : Cursor) :
    r.nextFrom lastEnd c = r'.nextFrom lastEnd c := by
  simp only [Regex.nextFrom, h.search]

theorem allFrom (h : r.Alike r') (fuel : Nat) (lastEnd : Option Nat) (c : Cursor) :
    r.allFrom fuel lastEnd c = r'.allFrom fuel lastEnd c := by
  induction fuel generalizing lastEnd c with
  | zero => rfl
  | succ fuel ih => simp only [Regex.allFrom, h.nextFrom, h.spans, ih]

theorem findAll (h : r.Alike r') (text : String) : r.findAll text = r'.findAll text :=
  h.allFrom _ _ _

end Alike

section Searching

variable {f b : Form}

/-- An empty form ahead makes no difference to what is found. -/
theorem Form.Pads.runAt_eq (h : f.Pads b) (c : Cursor) :
    (Form.capture 0 f).machine.runAt c = (Form.capture 0 b).machine.runAt c := by
  have hlabels : (Form.capture 0 f).machine.labels = (Form.capture 0 b).machine.labels := h.labels_eq
  have hpadded := (Settles.go_iff rfl).1 ((Form.capture 0 f).settles_runAt c)
  have hbare := (Settles.go_iff rfl).1 ((Form.capture 0 b).settles_runAt c)
  rw [hlabels] at hpadded
  exact (h.settles_iff.1 hpadded).unique hbare

theorem Form.Pads.runFrom_eq (h : f.Pads b) (previous : Option Char) (offset : Nat) (cs : List Char) :
    (Form.capture 0 f).machine.runFrom previous offset cs =
      (Form.capture 0 b).machine.runFrom previous offset cs := by
  induction cs generalizing previous offset with
  | nil => exact h.runAt_eq _
  | cons x cs ih => simp only [Machine.runFrom, h.runAt_eq, ih]

theorem Form.Pads.alike (h : f.Pads b) (pattern pattern' : String) :
    Alike ⟨pattern, (Form.capture 0 f).machine, f.lastGroup + 1⟩
      ⟨pattern', (Form.capture 0 b).machine, b.lastGroup + 1⟩ :=
  ⟨congrArg (· + 1) h.lastGroup_eq, fun c => h.runFrom_eq c.previous c.offset c.rest⟩

end Searching

section Reading

variable {lead : List Tree} {own : Builder} {cs : List Char} {fuel : Nat}

theorem exists_run_bare (hlead : IsLead lead) (hown : run fuel (ahead lead) cs = some own)
    (hclosed : own.outer = []) :
    ∃ b, run (cs.length + 1) .empty cs = some b ∧ b.outer = [] ∧ own.level.Leads lead b.level := by
  have hstart : Sheathes lead [] (ahead lead) .empty := ⟨.bottom (.pieces []), rfl, rfl, rfl⟩
  obtain ⟨b, ds, k, hb, ⟨hnil, -⟩, -, hmore⟩ := hstart.run hlead (fun h => Nat.le_of_eq (congrArg _ h.1))
    (.self false cs.length) (.inl (.self true cs.length)) ⟨rfl, Nat.le_refl _⟩ hown
  obtain ⟨hleads, houter⟩ := hb.of_closed hclosed
  have hrun := (hmore 1).1.trans (run_of_blank hnil.symm)
  exact ⟨b, run_of_length hrun (Nat.lt_succ_self _), houter, hleads⟩

end Reading

/-- Behind its directive a pattern does what it does by itself under the modes that the directive names and
Unicode mode. -/
theorem exists_compileUnder? {flags : ModeFlags} {body : String} {engine : Regex}
    (h : compile? (flags.directive ++ body) = some engine) :
    ∃ bare, compileUnder? { flags.modes with unicode := true } body = some bare ∧ engine.Alike bare := by
  obtain ⟨own, f, after, hown, hclosed, hparse, hresolve, rfl⟩ := exists_run_of_compile? h
  obtain ⟨hdepth, hroom⟩ := limits_of_compile? h hparse hresolve
  obtain ⟨lead, k, hlead, hmodes, -, hskip⟩ := flags.exists_lead
  rw [String.toList_append] at hown
  have hown := run_mono hown (Nat.le_add_right _ k)
  rw [hskip] at hown
  obtain ⟨b, hrun, houter, hleads⟩ := exists_run_bare hlead hown hclosed
  obtain ⟨form, hform, hpads⟩ := hleads.pads_behind hlead hresolve
  rw [hmodes] at hform
  have hdepth' := Nat.le_trans (hleads.depth_le hlead) hdepth
  exact ⟨_, compileUnder?_of_run hrun houter hdepth' hform (Nat.le_trans hpads.room_le hroom), hpads.alike _ _⟩

end Regex

namespace Compiling

variable {r : Registry} {s t : Store} {source : String} {c : CompiledExpression}

theorem exists_assemble_of_source {levels : Nat} (hc : (Compiling.source r levels source).run s = (.ok c, t)) :
    ∃ d, assemble r.options.flags source d = .ok c := by
  cases levels with
  | zero => cases hc
  | succ levels =>
      rw [Compiling.source, run_bind] at hc
      split at hc
      · next d u hd =>
          rw [run_liftExcept] at hc
          exact ⟨d, (Prod.mk.inj hc).1⟩
      · cases hc

theorem exists_assemble_of_compile (hissued : ∀ p ∈ s.published, p.1 < s.nextSerial)
    (hc : (r.compile source).run s = (.ok c, t)) : ∃ d, assemble r.options.flags source d = .ok c := by
  cases hrun : (Compiling.source r (r.options.maxDepth + 1) source).run (s.create source).2 with
  | mk result u =>
      obtain ⟨t', hrun'⟩ := exists_run_compile_of_source hissued hrun
      cases hc.symm.trans hrun'
      exact exists_assemble_of_source hrun

end Compiling

namespace CompiledExpression

open Regex

variable {c : CompiledExpression} {engine : Regex}

/-- The form finds in every text what the engine does: from every place on, at the start, and one match after
another, with the spans of all groups. -/
structure Matches (c : CompiledExpression) (engine : Regex) (text : String) : Prop where
  isMatch : c.isMatch text = engine.isMatch text
  findAt : ∀ position, (c.findAt? text position).map (·.spans) = engine.find? text position
  findAll : (c.findAll text).map (·.spans) = engine.findAll text
  lookingAt : ∀ spans, (c.lookingAt? text).map (·.spans) = some spans ↔
    engine.find? text 0 = some spans ∧ ∃ span, spans[0]?.join = some span ∧ span.start = 0

theorem spans_findAll (hcount : c.regex.groupCount = c.groupCount) (text : String) :
    (c.findAll text).map (·.spans) = c.regex.findAll text := by
  have hspans : ∀ spans ∈ c.regex.findAll text, (c.matchOf text spans).spans = spans := by
    intro spans hmem
    obtain ⟨cursor, task, -, rfl⟩ := exists_of_mem_allFrom hmem
    refine spans_matchOf ?_
    rw [Regex.spans, List.length_map, List.length_range, hcount]
  rw [CompiledExpression.findAll, List.map_map]
  exact (List.map_congr_left hspans).trans (List.map_id _)

theorem Patterns.spans_lookingAt? (h : c.Patterns) (text : String) :
    (c.lookingAt? text).map (·.spans) = c.anchored.find? text 0 := by
  rw [CompiledExpression.lookingAt?, Option.map_map]
  cases hfind : c.anchored.find? text 0 with
  | none => rfl
  | some spans =>
      obtain ⟨cursor, task, -, hspans⟩ := exists_of_find? (h.find?_anchored_eq_some.1 hfind).1
      refine congrArg some (spans_matchOf ?_)
      rw [hspans, Regex.spans, List.length_map, List.length_range, h.groupCount]

theorem Patterns.matches_of_alike (h : c.Patterns) (halike : c.regex.Alike engine) (text : String) :
    c.Matches engine text where
  isMatch := halike.isMatch text
  findAt position := (spans_findAt? h.groupCount text position).trans (halike.find? text position)
  findAll := (spans_findAll h.groupCount text).trans (halike.findAll text)
  lookingAt spans := by rw [h.spans_lookingAt?, h.find?_anchored_eq_some, halike.find?]

end CompiledExpression

theorem ModeFlags.modes_eq {flags : ModeFlags} (h : flags.unicode = true) :
    { flags.modes with unicode := true } = flags.modes := by
  simp only [modes, h]

namespace Registry

open Regex

variable {r : Registry} {s t : Store} {source : String} {c : CompiledExpression}

/-- A compiled source finds what the engine finds with its body, where the modes for case, lines and dots are
each on just if their flags are, and Unicode mode is on. It cannot be switched off by the flags: where its flag
is on too, all modes are as the flags say. -/
theorem matches_of_compile (hissued : ∀ p ∈ s.published, p.1 < s.nextSerial)
    (hc : (r.compile source).run s = (.ok c, t)) :
    ∃ engine, compileUnder? { r.options.flags.modes with unicode := true } c.body = some engine ∧
      engine.groupCount = c.groupCount ∧ (∀ text, c.Matches engine text) ∧
        (r.options.flags.unicode = true → compileUnder? r.options.flags.modes c.body = some engine) := by
  obtain ⟨d, hassemble⟩ := Compiling.exists_assemble_of_compile hissued hc
  obtain ⟨hpatterns, hdirective⟩ := CompiledExpression.patterns_of_assemble hassemble
  have hregex := hpatterns.regex
  rw [CompiledExpression.pattern, hdirective] at hregex
  obtain ⟨engine, hengine, halike⟩ := exists_compileUnder? hregex
  refine ⟨engine, hengine, ?_, fun text => hpatterns.matches_of_alike halike text, fun hunicode => ?_⟩
  · rw [← halike.groupCount, hpatterns.groupCount]
  · rw [← ModeFlags.modes_eq hunicode, hengine]

/-- Case is folded as the flag says, in the variant too, and dots stop at line breaks. -/
theorem matches_of_compile_ignoreCase :
    let w := (Definition.expression "a" "É").apply (withOptions ⟨⟨true, false, false, true⟩, 64⟩, .empty)
    ∃ c t engine, (w.1.compile "${a}.").run w.2 = (.ok c, t) ∧
      compileUnder? w.1.options.flags.modes c.body = some engine ∧ (∀ text, c.Matches engine text) ∧
        engine.isMatch "éx" = true ∧ engine.isMatch "é\n" = false := by
  intro w
  have hok : ((w.1.compile "${a}.").run w.2).1.toOption.any fun c : CompiledExpression =>
      c.isMatch "éx" && !c.isMatch "é\n" := by decide +kernel
  obtain ⟨c, t, hrun, hc⟩ := Compiling.exists_run_of_any hok
  simp only [Bool.and_eq_true, Bool.not_eq_true'] at hc
  have hissued : ∀ p ∈ w.2.published, p.1 < w.2.nextSerial := fun p hp => by cases hp
  obtain ⟨engine, -, -, hmatches, hengine⟩ := matches_of_compile hissued hrun
  refine ⟨c, t, engine, hrun, hengine rfl, hmatches, ?_, ?_⟩
  · rw [← (hmatches "éx").isMatch, hc.1]
  · rw [← (hmatches "é\n").isMatch, hc.2]

/-- With all flags off a word is still one of Unicode, while the engine without Unicode mode knows those of
ASCII only. -/
theorem exists_unicode_kept :
    let r := withOptions ⟨.none, 64⟩
    ∃ c t engine, (r.compile "\\w").run .empty = (.ok c, t) ∧
      compileUnder? r.options.flags.modes c.body = some engine ∧ c.isMatch "é" = true ∧
        engine.isMatch "é" = false ∧ engine.isMatch "e" = true := by
  intro r
  have hok : ((r.compile "\\w").run .empty).1.toOption.any fun c : CompiledExpression => c.isMatch "é" &&
      (compileUnder? r.options.flags.modes c.body).any fun engine =>
        !engine.isMatch "é" && engine.isMatch "e" := by decide +kernel
  obtain ⟨c, t, hrun, hc⟩ := Compiling.exists_run_of_any hok
  obtain ⟨hmatch, hany⟩ := (Bool.and_eq_true _ _).mp hc
  obtain ⟨engine, hengine, hsearch⟩ := (Option.any_eq_true _ _).1 hany
  simp only [Bool.and_eq_true, Bool.not_eq_true'] at hsearch
  exact ⟨c, t, engine, hrun, hengine, hmatch, hsearch.1, hsearch.2⟩

end Registry

end Patchwork
