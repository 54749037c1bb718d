import Patchwork.Proofs.Anchoring

namespace Patchwork

open Regex Regex.Builder

theorem ModeFlags.exists_run_ahead (flags : ModeFlags) : ∃ lead n, IsLead lead ∧ ∀ cs,
    run ((flags.directive.toList ++ cs).length + 1) .empty (flags.directive.toList ++ cs) =
      run (n + cs.length + 1) (ahead lead) cs := by
  obtain ⟨lead, k, hlead, -, hk, hskip⟩ := flags.exists_lead
  refine ⟨lead, flags.directive.toList.length - k, hlead, fun cs => ?_⟩
  rw [← hskip, List.length_append]
  congr 1
  omega

namespace Regex

variable {flags : ModeFlags} {pattern body : String} {engine : Regex}

/-- The pattern stays so far from the limits that two levels and two tests more are within them. -/
def roomy (pattern : String) : Bool :=
  (Tree.parse? pattern.toList).any fun t =>
    decide (t.depth + 2 ≤ nestLimit) && (t.resolve? .initial).any fun p => decide (p.1.room + 64 ≤ roomLimit)

theorem roomy_iff {t : Tree} {form : Form} {after : Modes} (hparse : Tree.parse? pattern.toList = some t)
    (hresolve : t.resolve? .initial = some (form, after)) :
    roomy pattern ↔ t.depth + 2 ≤ nestLimit ∧ form.room + 64 ≤ roomLimit := by
  simp [roomy, hparse, hresolve]

theorem parse?_of_open {b : Builder} (hrun : run (pattern.toList.length + 1) .empty pattern.toList = some b)
    (hopen : b.outer ≠ []) : Tree.parse? pattern.toList = none := by
  simp [Tree.parse?, hrun, hopen]

theorem parse?_of_run_none (hrun : run (pattern.toList.length + 1) .empty pattern.toList = none) :
    Tree.parse? pattern.toList = none := by
  rw [Tree.parse?, hrun]
  rfl

theorem compile?_of_parse?_none (h : Tree.parse? pattern.toList = none) : compile? pattern = none := by
  simp [compile?, form?, h]

theorem toList_closed (directive body : String) :
    (directive ++ body ++ ")").toList = directive.toList ++ (body.toList ++ [')']) := by
  simp

theorem exists_runs (flags : ModeFlags) (body : String) : ∃ lead fuel, IsLead lead ∧
    run ((flags.directive ++ body).toList.length + 1) .empty (flags.directive ++ body).toList =
        run fuel (ahead lead) body.toList ∧
      run ((flags.directive ++ body ++ ")").toList.length + 1) .empty (flags.directive ++ body ++ ")").toList =
          run (fuel + 1) (ahead lead) (body.toList ++ [')']) ∧
        run ((flags.directive ++ "\\A(?:" ++ body ++ ")").toList.length + 1) .empty
            (flags.directive ++ "\\A(?:" ++ body ++ ")").toList =
          run (fuel + 4) (within lead) (body.toList ++ [')']) := by
  obtain ⟨lead, n, hlead, hahead⟩ := flags.exists_run_ahead
  refine ⟨lead, n + body.toList.length + 1, hlead, ?_, ?_, ?_⟩
  · rw [String.toList_append, hahead]
  · rw [toList_closed, hahead, List.length_append]
    rfl
  · rw [ModeFlags.toList_anchored, hahead, ← run_within]
    simp only [List.length_cons, List.length_append]
    rfl

/-- Held to the start of the text, a pattern is accepted if a parenthesis put behind it makes it none; if the
pattern takes that in, it is not. -/
theorem compile?_close (h : compile? (flags.directive ++ body) = some engine) :
    (compile? (flags.directive ++ body ++ ")") = none ∧ (roomy (flags.directive ++ body) →
        ∃ anchored, compile? (flags.directive ++ "\\A(?:" ++ body ++ ")") = some anchored ∧
          anchored.groupCount = engine.groupCount)) ∨
      (compile? (flags.directive ++ body ++ ")")).isSome ∧
        compile? (flags.directive ++ "\\A(?:" ++ body ++ ")") = none := by
  obtain ⟨own, form, after, hown, hclosed, hparse, hresolve, heq⟩ := exists_run_of_compile? h
  obtain ⟨lead, fuel, hlead, hbody, hsurplus, hanchored⟩ := exists_runs flags body
  rw [hbody] at hown
  -- either the parenthesis closes the group around the body, or a comment takes it in both patterns
  rcases (sheathes_within lead).closes hlead hown hclosed with
    ⟨l, b, hleads, hwithin, houter, hlevel, hnone⟩ | ⟨⟨b, hwithin, houter⟩, htaken⟩
  · refine .inl ⟨compile?_of_parse?_none (parse?_of_run_none (hsurplus.trans (hnone _))), fun hroomy => ?_⟩
    obtain ⟨hdepth, hroom⟩ := (roomy_iff hparse hresolve).1 hroomy
    have htree : b.level.finish = l.anchored lead := by rw [hlevel]; rfl
    obtain ⟨inner, g, after', hpads, hanchors, hg⟩ := hleads.anchors hlead hresolve
    have hwhole := hanchored.trans (run_mono hwithin (by omega))
    refine ⟨_, compile?_of_run hwhole houter ?_ (htree ▸ hg) ?_, ?_⟩
    · rw [htree, Level.depth_anchored hlead]
      have hle := hleads.depth_le hlead
      omega
    · have hle := hanchors.room_le
      have hle' := hpads.room_le
      omega
    · rw [heq, hanchors.lastGroup_eq, hpads.lastGroup_eq]
  · have htree := parse?_of_run (hsurplus.trans htaken) hclosed
    have hform : form? (flags.directive ++ body ++ ")").toList = form? (flags.directive ++ body).toList := by
      simp only [form?, htree, hparse]
    have hopen : b.outer ≠ [] := by simp [houter]
    have hwhole := hanchored.trans (run_mono hwithin (by omega))
    refine .inr ⟨?_, compile?_of_parse?_none (parse?_of_open hwhole hopen)⟩
    obtain ⟨form', hsome, -⟩ := Option.bind_eq_some_iff.1 h
    rw [compile?, hform, hsome]
    rfl

/-- No comment takes the parenthesis where every comment is ended by a line break, or none is read. -/
theorem compile?_close_eq_none (h : compile? (flags.directive ++ body) = some engine)
    (hends : linesEnd body.toList ∨ (Tree.parse? (flags.directive ++ body).toList).all Tree.isTerse) :
    compile? (flags.directive ++ body ++ ")") = none := by
  obtain ⟨own, form, after, hown, hclosed, hparse, hresolve, -⟩ := exists_run_of_compile? h
  obtain ⟨lead, fuel, hlead, hbody, hsurplus, -⟩ := exists_runs flags body
  rw [hbody] at hown
  refine compile?_of_parse?_none (parse?_of_run_none (hsurplus.trans ?_))
  rcases hends with hlines | hterse
  · have hcloses : ClosesLines body.toList (body.toList ++ [')']) := ⟨rfl, hlines⟩
    exact (sheathes_within lead).refuses hlead (tracks_closesLines false) (.inl (tracks_closesLines true))
      (fun h => h.1) hcloses hown hclosed _
  · have hsteady : (ahead lead).Steady := ⟨rfl, by simp [ahead]⟩
    exact (sheathes_within lead).refuses hlead tracks_append
      (.inr ⟨hsteady, settled_of_terse hterse hparse hclosed hresolve⟩) (fun h => h) rfl hown hclosed _

/-- Leaving the limits aside, a pattern is accepted where it is held to the start of the text, with as many
groups, just if it does not end in a comment that would take a parenthesis put behind it. No pattern does in
which every number sign has a line break behind it, or which never switches verbose mode on. A source whose
body is such a pattern is not refused for what holds it to the start. -/
theorem compile?_anchored_iff (h : compile? (flags.directive ++ body) = some engine)
    (hroomy : roomy (flags.directive ++ body)) :
    ((∃ anchored, compile? (flags.directive ++ "\\A(?:" ++ body ++ ")") = some anchored ∧
          anchored.groupCount = engine.groupCount) ↔ compile? (flags.directive ++ body ++ ")") = none) ∧
      (linesEnd body.toList ∨ (Tree.parse? (flags.directive ++ body).toList).all Tree.isTerse →
        compile? (flags.directive ++ body ++ ")") = none) ∧
      ∀ source d refused, (renumber d.text).body = body →
        (Compiling.assemble flags source d = .error (.pattern refused) ↔
          (compile? (flags.directive ++ body ++ ")")).isSome ∧
            refused = flags.directive ++ "\\A(?:" ++ body ++ ")") := by
  refine ⟨?_, compile?_close_eq_none h, ?_⟩
  · rcases compile?_close h with ⟨hrefused, haccepted⟩ | ⟨htaken, hnone⟩
    · exact iff_of_true (haccepted hroomy) hrefused
    · refine iff_of_false ?_ (Option.isSome_iff_ne_none.1 htaken)
      rintro ⟨anchored, hsome, -⟩
      cases hnone.symm.trans hsome
  · rintro source d refused rfl
    constructor
    · intro herror
      rcases Compiling.assemble_eq_error herror with
        ⟨hflat, -⟩ | ⟨_, -, ⟨hnone, hrefused⟩ | ⟨-, -, hmismatch⟩⟩
      · cases h.symm.trans hflat
      · rcases compile?_close h with ⟨-, haccepted⟩ | ⟨htaken, -⟩
        · obtain ⟨anchored, hanchored, -⟩ := haccepted hroomy
          cases hnone.symm.trans hanchored
        · exact ⟨htaken, CompileError.pattern.inj hrefused⟩
      · cases hmismatch
    · rintro ⟨htaken, rfl⟩
      rcases compile?_close h with ⟨hrefused, -⟩ | ⟨-, hnone⟩
      · exact absurd hrefused (Option.isSome_iff_ne_none.1 htaken)
      · exact Compiling.assemble_of_anchored_refused source d h hnone

/-- With a line break behind its comment the pattern can be held to the start of the text, and not without. -/
theorem compile?_anchored_iff_comment :
    let body := "(?x)(a)#b"
    (∃ engine, compile? ("(?isu)" ++ (body ++ "\n")) = some engine ∧ engine.groupCount = 2 ∧
      ∃ anchored, compile? ("(?isu)" ++ "\\A(?:" ++ (body ++ "\n") ++ ")") = some anchored ∧
        anchored.groupCount = engine.groupCount) ∧
    ∃ engine, compile? ("(?isu)" ++ body) = some engine ∧
      (compile? ("(?isu)" ++ body ++ ")")).isSome ∧
        Compiling.assemble .standard body { Draft.empty with text := body } =
          .error (.pattern ("(?isu)" ++ "\\A(?:" ++ body ++ ")")) := by
  intro body
  have haccepted : ∀ text ∈ [body ++ "\n", body],
      (compile? (ModeFlags.standard.directive ++ text)).any fun engine => decide (engine.groupCount = 2) := by
    decide +kernel
  have hroomy : ∀ text ∈ [body ++ "\n", body], roomy (ModeFlags.standard.directive ++ text) := by decide +kernel
  constructor
  · obtain ⟨engine, hengine, hcount⟩ := (Option.any_eq_true _ _).1 (haccepted (body ++ "\n") (by simp))
    obtain ⟨hiff, hends, -⟩ := compile?_anchored_iff hengine (hroomy _ (by simp))
    exact ⟨engine, hengine, of_decide_eq_true hcount, hiff.2 (hends (.inl (by decide)))⟩
  · obtain ⟨engine, hengine, -⟩ := (Option.any_eq_true _ _).1 (haccepted body (by simp))
    obtain ⟨-, -, hrefused⟩ := compile?_anchored_iff hengine (hroomy _ (by simp))
    have htaken : (compile? (ModeFlags.standard.directive ++ body ++ ")")).isSome := by decide +kernel
    have hbody : (renumber body).body = body := by decide +kernel
    exact ⟨engine, hengine, htaken, (hrefused body { Draft.empty with text := body } _ hbody).2 ⟨htaken, rfl⟩⟩

end Regex

end Patchwork
