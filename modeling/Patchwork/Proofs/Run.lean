import Patchwork.Compile

namespace Patchwork

section Except

variable {ε α β : Type} {x : Except ε α} {f : α → Except ε β} {b : β} {e : ε}

theorem bind_eq_ok_iff :
    (x >>= f) = .ok b ↔ ∃ a, x = .ok a ∧ f a = .ok b := by
  cases x with
  | error e =>
      refine iff_of_false (fun h => by cases h) ?_
      rintro ⟨a, ha, -⟩
      cases ha
  | ok a =>
      refine ⟨fun h => ⟨a, rfl, h⟩, ?_⟩
      rintro ⟨_, ⟨⟩, h⟩
      exact h

theorem bind_eq_error_iff : (x >>= f) = .error e ↔ x = .error e ∨ ∃ a, x = .ok a ∧ f a = .error e := by
  cases x with
  | error e' =>
      change Except.error e' = .error e ↔ _
      simp
  | ok a =>
      refine ⟨fun h => .inr ⟨a, rfl, h⟩, ?_⟩
      rintro (⟨⟨⟩⟩ | ⟨_, ⟨⟩, h⟩)
      exact h

end Except

namespace Compiling

variable {α β : Type}

@[simp]
theorem run_pure (a : α) (s : Store) : (pure a : Compiling α).run s = (.ok a, s) := rfl

@[simp]
theorem run_throw (e : CompileError) (s : Store) :
    (throw e : Compiling α).run s = (.error e, s) := rfl

@[simp]
theorem run_modify (f : Store → Store) (s : Store) :
    (modify f : Compiling PUnit).run s = (.ok (), f s) := rfl

@[simp]
theorem run_get (s : Store) : (get : Compiling Store).run s = (.ok s, s) := rfl

@[simp]
theorem run_liftExcept (x : Except CompileError α) (s : Store) :
    (liftM x : Compiling α).run s = (x, s) := by
  cases x <;> rfl

theorem run_bind (x : Compiling α) (f : α → Compiling β) (s : Store) :
    (x >>= f).run s =
      match x.run s with
      | (.ok a, t) => (f a).run t
      | (.error e, t) => (.error e, t) := by
  change (ExceptT.bindCont f (x.run s).1) (x.run s).2 = _
  rcases x.run s with ⟨_ | _, _⟩ <;> rfl

theorem run_bind_ok {x : Compiling α} {f : α → Compiling β} {s t : Store} {a : α}
    (h : x.run s = (.ok a, t)) : (x >>= f).run s = (f a).run t := by
  rw [run_bind, h]

theorem run_bind_error {x : Compiling α} {f : α → Compiling β} {s t : Store} {e : CompileError}
    (h : x.run s = (.error e, t)) : (x >>= f).run s = (.error e, t) := by
  rw [run_bind, h]

theorem exists_of_any {x : Except CompileError α} {f : α → Bool} (h : x.toOption.any f) :
    ∃ a, x = .ok a ∧ f a := by
  cases x with
  | error e => cases h
  | ok a => exact ⟨a, rfl, h⟩

theorem exists_run_of_any {x : Compiling α} {s : Store} {f : α → Bool} (h : (x.run s).1.toOption.any f) :
    ∃ a t, x.run s = (.ok a, t) ∧ f a := by
  obtain ⟨a, ha, hf⟩ := exists_of_any h
  exact ⟨a, _, Prod.ext ha rfl, hf⟩

theorem accept_eq_ok_iff {pattern : String} {regex : Regex} :
    accept pattern = .ok regex ↔ Regex.compile? pattern = some regex := by
  unfold accept
  split
  · next h => rw [h, Except.ok.injEq, Option.some.injEq]
  · next h => simp [h]

theorem accept_eq_error_iff {pattern : String} {cause : CompileError} :
    accept pattern = .error cause ↔ Regex.compile? pattern = none ∧ cause = .pattern pattern := by
  unfold accept
  split
  · next h => simp [h]
  · next h => rw [Except.error.injEq, eq_comm, and_iff_right h]

section Assemble

variable {flags : ModeFlags} {source : String} {d : Draft} {regex anchored : Regex} {c : CompiledExpression}
  {cause : CompileError}

theorem assemble_eq_ok (h : assemble flags source d = .ok c) :
    ∃ regex anchored,
      Regex.compile? (flags.directive ++ (renumber d.text).body) = some regex ∧
      Regex.compile? (flags.directive ++ "\\A(?:" ++ (renumber d.text).body ++ ")") = some anchored ∧
      regex.groupCount = (renumber d.text).groupCount ∧
      c = {
        source, regex, anchored
        directive := flags.directive
        body := (renumber d.text).body
        groupCount := (renumber d.text).groupCount
        height := d.height
        names := d.names.absorb (renumber d.text).names 0
        anchors := d.anchors
        blocks := d.blocks } := by
  obtain ⟨regex, hregex, h⟩ := bind_eq_ok_iff.1 h
  obtain ⟨anchored, hanchored, h⟩ := bind_eq_ok_iff.1 h
  split at h
  · next hcount =>
      cases h
      exact ⟨regex, anchored, accept_eq_ok_iff.1 hregex, accept_eq_ok_iff.1 hanchored, hcount, rfl⟩
  · cases h

/-- The flat pattern is refused, or only the one that is held to the start of the text, or else the engine
counts other groups. -/
theorem assemble_eq_error (h : assemble flags source d = .error cause) :
    Regex.compile? (flags.directive ++ (renumber d.text).body) = none ∧
        cause = .pattern (flags.directive ++ (renumber d.text).body) ∨
      ∃ regex, Regex.compile? (flags.directive ++ (renumber d.text).body) = some regex ∧
        (Regex.compile? (flags.directive ++ "\\A(?:" ++ (renumber d.text).body ++ ")") = none ∧
            cause = .pattern (flags.directive ++ "\\A(?:" ++ (renumber d.text).body ++ ")") ∨
          (Regex.compile? (flags.directive ++ "\\A(?:" ++ (renumber d.text).body ++ ")")).isSome ∧
            regex.groupCount ≠ (renumber d.text).groupCount ∧
            cause = .groupCountMismatch (renumber d.text).groupCount regex.groupCount) := by
  rcases bind_eq_error_iff.1 h with hregex | ⟨regex, hregex, h⟩
  · exact .inl (accept_eq_error_iff.1 hregex)
  · refine .inr ⟨regex, accept_eq_ok_iff.1 hregex, ?_⟩
    rcases bind_eq_error_iff.1 h with hanchored | ⟨anchored, hanchored, h⟩
    · exact .inl (accept_eq_error_iff.1 hanchored)
    · rw [accept_eq_ok_iff.1 hanchored]
      split at h
      · cases h
      · next hcount =>
          cases h
          exact .inr ⟨rfl, hcount, rfl⟩

theorem assemble_of_refused (source : String) (d : Draft)
    (h : Regex.compile? (flags.directive ++ (renumber d.text).body) = none) :
    assemble flags source d = .error (.pattern (flags.directive ++ (renumber d.text).body)) := by
  simp only [assemble, accept_eq_error_iff.2 ⟨h, rfl⟩]
  rfl

theorem assemble_of_anchored_refused (source : String) (d : Draft)
    (h : Regex.compile? (flags.directive ++ (renumber d.text).body) = some regex)
    (hnone : Regex.compile? (flags.directive ++ "\\A(?:" ++ (renumber d.text).body ++ ")") = none) :
    assemble flags source d =
      .error (.pattern (flags.directive ++ "\\A(?:" ++ (renumber d.text).body ++ ")")) := by
  simp only [assemble, accept_eq_ok_iff.2 h, accept_eq_error_iff.2 ⟨hnone, rfl⟩]
  rfl

theorem exists_assemble_of_accepted (source : String) (d : Draft)
    (h : Regex.compile? (flags.directive ++ (renumber d.text).body) = some regex)
    (hanchored : Regex.compile? (flags.directive ++ "\\A(?:" ++ (renumber d.text).body ++ ")") = some anchored)
    (hcount : regex.groupCount = (renumber d.text).groupCount) : ∃ c, assemble flags source d = .ok c := by
  simp only [assemble, accept_eq_ok_iff.2 h, accept_eq_ok_iff.2 hanchored]
  exact ⟨_, if_pos hcount⟩

theorem assemble_of_mismatch (source : String) (d : Draft)
    (h : Regex.compile? (flags.directive ++ (renumber d.text).body) = some regex)
    (hanchored : Regex.compile? (flags.directive ++ "\\A(?:" ++ (renumber d.text).body ++ ")") = some anchored)
    (hcount : regex.groupCount ≠ (renumber d.text).groupCount) :
    assemble flags source d = .error (.groupCountMismatch (renumber d.text).groupCount regex.groupCount) := by
  simp only [assemble, accept_eq_ok_iff.2 h, accept_eq_ok_iff.2 hanchored]
  exact if_neg hcount

theorem height_of_assemble (h : assemble flags source d = .ok c) : c.height = d.height := by
  obtain ⟨_, _, -, -, -, rfl⟩ := assemble_eq_ok h
  rfl

end Assemble

end Compiling

end Patchwork
