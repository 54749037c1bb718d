import Patchwork.Proofs.Declared
import Patchwork.Proofs.Regex.Openings

namespace Patchwork

open Token

namespace Marked

theorem classes_append (xs ys : List Marked) : classes (xs ++ ys) = classes xs ++ classes ys :=
  List.filterMap_append

theorem classes_plain (cs : List Char) : classes (plain cs) = [] := by
  induction cs with
  | nil => rfl
  | cons c cs ih => exact ih

end Marked

namespace ModeFlags

theorem directive_reads (flags : ModeFlags) : IsClosed flags.directive.toList ∧
    marks flags.directive.toList = Marked.plain flags.directive.toList := by
  obtain ⟨i, m, s, u⟩ := flags
  have hspecial : ∀ {c : Char} {cs : List Char}, c ≠ '<' ∧ c ≠ 'P' → Ordinary (c :: cs) →
      IsClosed ('(' :: '?' :: c :: cs) ∧
        marks ('(' :: '?' :: c :: cs) = Marked.plain ('(' :: '?' :: c :: cs) :=
    fun hc h => (isSealed_special hc h).imp_left (·.closed)
  cases i <;> cases m <;> cases s <;> cases u
  · exact isClosed_of_ordinary (by decide)
  all_goals exact hspecial (by decide) (by decide)

theorem marks_directive (flags : ModeFlags) (text : String) :
    marks (flags.directive ++ text).toList = Marked.plain flags.directive.toList ++ marks text.toList := by
  obtain ⟨hclosed, hplain⟩ := flags.directive_reads
  rw [String.toList_append, hclosed, hplain]

end ModeFlags

namespace Regex

open Builder

theorem exists_run_of_compile? {pattern : String} {r : Regex} (h : compile? pattern = some r) :
    ∃ b form after, Builder.run (pattern.toList.length + 1) .empty pattern.toList = some b ∧ b.outer = [] ∧
      Tree.parse? pattern.toList = some b.level.finish ∧
        b.level.finish.resolve? .initial = some (form, after) ∧
          r = ⟨pattern, (Form.capture 0 form).machine, form.lastGroup + 1⟩ := by
  obtain ⟨form, hform, heq⟩ := Option.bind_eq_some_iff.1 h
  obtain ⟨tree, hparse, hform⟩ := Option.bind_eq_some_iff.1 hform
  obtain ⟨b, hrun, htree⟩ := Option.bind_eq_some_iff.1 hparse
  split at htree
  · next houter =>
      obtain rfl := Option.some.inj htree
      dsimp only at hform
      split at hform
      · cases hform
      · obtain ⟨⟨form', after⟩, hresolve, hform⟩ := Option.bind_eq_some_iff.1 hform
        dsimp only at hform
        split at hform
        · cases hform
        · cases hform
          exact ⟨b, form, after, hrun, List.isEmpty_iff.1 houter, hparse, hresolve, (Option.some.inj heq).symm⟩
  · cases htree

theorem parse?_of_run {pattern : String} {b : Builder}
    (hrun : run (pattern.toList.length + 1) .empty pattern.toList = some b) (hclosed : b.outer = []) :
    Tree.parse? pattern.toList = some b.level.finish := by
  rw [Tree.parse?, hrun, Option.bind_eq_bind, Option.bind_some, hclosed]
  rfl

def formUnder? (m : Modes) (pattern : List Char) : Option Form := do
  let tree ← Tree.parse? pattern
  if tree.depth > nestLimit then none
  let (form, _) ← tree.resolve? m
  if form.room > roomLimit then none
  return form

def compileUnder? (m : Modes) (pattern : String) : Option Regex := do
  let form ← formUnder? m pattern.toList
  return ⟨pattern, (Form.capture 0 form).machine, form.lastGroup + 1⟩

theorem compileUnder?_initial : compileUnder? .initial = compile? := rfl

theorem compileUnder?_of_run {m : Modes} {pattern : String} {b : Builder} {form : Form} {after : Modes}
    (hrun : run (pattern.toList.length + 1) .empty pattern.toList = some b) (hclosed : b.outer = [])
    (hdepth : b.level.finish.depth ≤ nestLimit) (hresolve : b.level.finish.resolve? m = some (form, after))
    (hroom : form.room ≤ roomLimit) :
    compileUnder? m pattern = some ⟨pattern, (Form.capture 0 form).machine, form.lastGroup + 1⟩ := by
  have hparse := parse?_of_run hrun hclosed
  have hform : formUnder? m pattern.toList = some form := by
    simp [formUnder?, hparse, hresolve, Nat.not_lt.2 hdepth, Nat.not_lt.2 hroom]
  simp [compileUnder?, hform]

theorem compile?_of_run {pattern : String} {b : Builder} {form : Form} {after : Modes}
    (hrun : run (pattern.toList.length + 1) .empty pattern.toList = some b) (hclosed : b.outer = [])
    (hdepth : b.level.finish.depth ≤ nestLimit) (hresolve : b.level.finish.resolve? .initial = some (form, after))
    (hroom : form.room ≤ roomLimit) :
    compile? pattern = some ⟨pattern, (Form.capture 0 form).machine, form.lastGroup + 1⟩ :=
  compileUnder?_of_run hrun hclosed hdepth hresolve hroom

theorem limits_of_compile? {pattern : String} {engine : Regex} {tree : Tree} {form : Form} {after : Modes}
    (h : compile? pattern = some engine) (hparse : Tree.parse? pattern.toList = some tree)
    (hresolve : tree.resolve? .initial = some (form, after)) :
    tree.depth ≤ nestLimit ∧ form.room ≤ roomLimit := by
  obtain ⟨form', hform, -⟩ := Option.bind_eq_some_iff.1 h
  simp only [form?, hparse, Option.bind_eq_bind, Option.bind_some] at hform
  split at hform
  · cases hform
  · next hdepth =>
      rw [hresolve, Option.bind_some] at hform
      dsimp only at hform
      split at hform
      · cases hform
      · next hroom => exact ⟨Nat.le_of_not_lt hdepth, Nat.le_of_not_lt hroom⟩

theorem settled_of_terse {pattern : String} {b : Builder} {p : Form × Modes}
    (hterse : (Tree.parse? pattern.toList).all Tree.isTerse)
    (hparse : Tree.parse? pattern.toList = some b.level.finish) (houter : b.outer = [])
    (hresolve : b.level.finish.resolve? .initial = some p) : b.Settled := by
  rw [hparse] at hterse
  exact ⟨Level.settled_finish ((Tree.resolves_of_resolve? hresolve).settled hterse), by simp [houter]⟩

theorem steady_empty : Builder.empty.Steady := ⟨rfl, by simp [Builder.empty]⟩

def openings (pattern : String) : List (Nat × List Char) :=
  Builder.openings (pattern.toList.length + 1) .empty pattern.toList

theorem openings_of_compile? {pattern : String} {r : Regex} (h : compile? pattern = some r)
    (hterse : (Tree.parse? pattern.toList).all Tree.isTerse) (hbare : Bare pattern.toList) :
    openings pattern = Marked.openings 1 (marks pattern.toList) := by
  obtain ⟨b, form, after, hrun, houter, hparse, hresolve, -⟩ := exists_run_of_compile? h
  exact openings_eq hbare steady_empty hrun (settled_of_terse hterse hparse houter hresolve)

end Regex

namespace CompiledExpression

variable {kind : Kind} {c : CompiledExpression}

structure Patterns (c : CompiledExpression) : Prop where
  directive : ∃ flags : ModeFlags, c.directive = flags.directive
  regex : Regex.compile? c.pattern = some c.regex
  anchored : Regex.compile? (c.directive ++ "\\A(?:" ++ c.body ++ ")") = some c.anchored
  groupCount : c.regex.groupCount = c.groupCount

theorem patterns_of_assemble {flags : ModeFlags} {source : String} {d : Draft}
    (h : Compiling.assemble flags source d = .ok c) : c.Patterns ∧ c.directive = flags.directive := by
  obtain ⟨regex, anchored, hregex, hanchored, hcount, rfl⟩ := Compiling.assemble_eq_ok h
  exact ⟨⟨⟨flags, rfl⟩, hregex, hanchored, hcount⟩, rfl⟩

theorem Woven.patterns (h : c.Woven kind) : c.Patterns := by
  cases h with
  | intro _ _ _ _ _ assembled => exact (patterns_of_assemble assembled).1

theorem Patterns.marks_pattern (h : c.Patterns) :
    marks c.pattern.toList = Marked.plain c.directive.toList ++ marks c.body.toList := by
  obtain ⟨flags, hflags⟩ := h.directive
  rw [pattern, hflags, flags.marks_directive]

theorem Patterns.bare_pattern (h : c.Patterns) (hbare : Regex.Builder.Bare c.body.toList) :
    Regex.Builder.Bare c.pattern.toList := by
  refine ⟨?_, ?_⟩
  · rw [h.marks_pattern, Marked.classes_append, Marked.classes_plain]
    exact hbare.alike
  · rw [h.marks_pattern, Marked.names_append, Marked.names_plain]
    exact hbare.unnamed

end CompiledExpression

end Patchwork
