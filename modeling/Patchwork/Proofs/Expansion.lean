import Patchwork.Proofs.Run

namespace Patchwork

namespace Draft

def raisedBy (h : Nat) (variants : List CompiledExpression) : Nat :=
  variants.foldl (fun h c => max h (c.height + 1)) h

theorem height_splice (d : Draft) (id : String) (variants : List CompiledExpression) :
    (d.splice id variants).height = raisedBy d.height variants := rfl

theorem raisedBy_le_iff {h b : Nat} {variants : List CompiledExpression} :
    raisedBy h variants ≤ b ↔ h ≤ b ∧ ∀ c ∈ variants, c.height < b := by
  induction variants generalizing h with
  | nil => simp [raisedBy]
  | cons c cs ih =>
      have hstep : raisedBy h (c :: cs) = raisedBy (max h (c.height + 1)) cs := rfl
      rw [hstep, ih, List.forall_mem_cons, Nat.max_le, Nat.succ_le_iff, and_assoc]

end Draft

namespace Registry

def expandToken (r : Registry) (compile : Expression → Except CompileError CompiledExpression)
    (d : Draft) : Token → Except CompileError Draft
  | .call id args =>
    match r.function? id with
    | none => .error (.missingFunction id)
    | some f =>
      match f.execute (argumentsOf args) with
      | .ok text => .ok (d.append text)
      | .error cause => .error (.fragment id cause)
  | .reference id =>
    match r.resolve? id with
    | none => .error (.missingExpression id)
    | some variants => return d.splice id (← variants.mapM compile)
  | t => .ok (d.append t.render)

/-- Expands a source from left to right, and the variants of a reference before what follows it, with
so many levels of nesting left, its own included. -/
def expand (r : Registry) : Nat → String → Except CompileError CompiledExpression
  | 0, _ => .error (.tooDeeplyNested r.options.maxDepth)
  | levels + 1, text => do
    let d ← (Token.lex text).foldlM (r.expandToken fun e => r.expand levels e.source) .empty
    Compiling.assemble r.options.flags text d

/-- What compiling a source gives when nothing has been compiled before. -/
def expansion (r : Registry) (text : String) : Except CompileError CompiledExpression :=
  r.expand (r.options.maxDepth + 1) text

def formOf (r : Registry) (known : Expression → Option CompiledExpression) (levels : Nat)
    (compile : String → Except CompileError CompiledExpression) (e : Expression) :
    Except CompileError CompiledExpression :=
  match known e with
  | some c => if c.height < levels then .ok c else .error (.tooDeeplyNested r.options.maxDepth)
  | none => compile e.source

def expandFrom (r : Registry) (known : Expression → Option CompiledExpression) :
    Nat → String → Except CompileError CompiledExpression
  | 0, _ => .error (.tooDeeplyNested r.options.maxDepth)
  | levels + 1, text => do
    let compile := r.formOf known levels (r.expandFrom known levels)
    let d ← (Token.lex text).foldlM (r.expandToken compile) .empty
    Compiling.assemble r.options.flags text d

theorem expandFrom_none (r : Registry) (n : Nat) : r.expandFrom (fun _ => none) n = r.expand n := by
  induction n with
  | zero => rfl
  | succ n ih =>
      funext text
      simp only [expandFrom, ih]
      rfl

variable {r : Registry} {known : Expression → Option CompiledExpression} {b : Nat}
  {f g : Expression → Except CompileError CompiledExpression}

/-- `g` compiles what `f` does, but refuses forms that are `b` high or higher. -/
def Confines (r : Registry) (b : Nat) (f g : Expression → Except CompileError CompiledExpression) :
    Prop :=
  ∀ e c, f e = .ok c →
    g e = if c.height < b then .ok c else .error (.tooDeeplyNested r.options.maxDepth)

theorem mapM_confines (h : r.Confines b f g) {es : List Expression} {cs : List CompiledExpression}
    (hes : es.mapM f = .ok cs) :
    es.mapM g =
      if ∀ c ∈ cs, c.height < b then .ok cs else .error (.tooDeeplyNested r.options.maxDepth) := by
  induction es generalizing cs with
  | nil =>
      cases hes
      exact (if_pos (by simp)).symm
  | cons e es ih =>
      rw [List.mapM_cons] at hes
      obtain ⟨c, hc, hes⟩ := bind_eq_ok_iff.1 hes
      obtain ⟨rest, hrest, hes⟩ := bind_eq_ok_iff.1 hes
      cases hes
      have hcons : (∀ d ∈ c :: rest, d.height < b) ↔ c.height < b ∧ ∀ d ∈ rest, d.height < b :=
        List.forall_mem_cons
      rw [List.mapM_cons, h _ _ hc, ih hrest]
      by_cases hlt : c.height < b
      · by_cases hall : ∀ d ∈ rest, d.height < b
        · rw [if_pos hlt, if_pos hall, if_pos (hcons.2 ⟨hlt, hall⟩)]
          rfl
        · rw [if_pos hlt, if_neg hall, if_neg fun hh => hall (hcons.1 hh).2]
          rfl
      · rw [if_neg hlt, if_neg fun hh => hlt (hcons.1 hh).1]
        rfl

theorem height_le_of_expandToken {d d' : Draft} {t : Token} (ht : r.expandToken f d t = .ok d') :
    d.height ≤ d'.height := by
  simp only [expandToken] at ht
  split at ht
  · split at ht
    · cases ht
    · split at ht <;> cases ht
      exact Nat.le_refl _
  · split at ht
    · cases ht
    · obtain ⟨cs, -, ht⟩ := bind_eq_ok_iff.1 ht
      cases ht
      rw [Draft.height_splice]
      exact (Draft.raisedBy_le_iff.1 (Nat.le_refl _)).1
  · cases ht
    exact Nat.le_refl _

theorem height_le_of_foldlM {ts : List Token} {d d' : Draft}
    (h : ts.foldlM (r.expandToken f) d = .ok d') : d.height ≤ d'.height := by
  induction ts generalizing d with
  | nil =>
      cases h
      exact Nat.le_refl _
  | cons t ts ih =>
      rw [List.foldlM_cons] at h
      obtain ⟨d₁, ht, hts⟩ := bind_eq_ok_iff.1 h
      exact Nat.le_trans (height_le_of_expandToken ht) (ih hts)

theorem expandToken_confines (h : r.Confines b f g) {d d' : Draft} {t : Token} (hd : d.height ≤ b)
    (ht : r.expandToken f d t = .ok d') :
    r.expandToken g d t =
      if d'.height ≤ b then .ok d' else .error (.tooDeeplyNested r.options.maxDepth) := by
  cases t with
  | call id args =>
      have hg : r.expandToken g d (.call id args) = .ok d' := ht
      rw [hg, if_pos]
      simp only [expandToken] at ht
      split at ht
      · cases ht
      · split at ht <;> cases ht
        exact hd
  | reference id =>
      simp only [expandToken] at ht ⊢
      split at ht
      · cases ht
      · obtain ⟨cs, hcs, ht⟩ := bind_eq_ok_iff.1 ht
        cases ht
        rw [mapM_confines h hcs, Draft.height_splice]
        have hle := @Draft.raisedBy_le_iff d.height b cs
        by_cases hall : ∀ c ∈ cs, c.height < b
        · rw [if_pos hall, if_pos (hle.2 ⟨hd, hall⟩)]
          rfl
        · rw [if_neg hall, if_neg fun hh => hall (hle.1 hh).2]
          rfl
  | text | escape | charClass | groupOpen | namedOpen | specialOpen =>
      cases ht
      exact (if_pos hd).symm

theorem foldlM_expandToken_confines (h : r.Confines b f g) {ts : List Token} {d d' : Draft}
    (hd : d.height ≤ b) (hts : ts.foldlM (r.expandToken f) d = .ok d') :
    ts.foldlM (r.expandToken g) d =
      if d'.height ≤ b then .ok d' else .error (.tooDeeplyNested r.options.maxDepth) := by
  induction ts generalizing d with
  | nil =>
      cases hts
      exact (if_pos hd).symm
  | cons t ts ih =>
      rw [List.foldlM_cons] at hts ⊢
      obtain ⟨d₁, ht, hts⟩ := bind_eq_ok_iff.1 hts
      rw [expandToken_confines h hd ht]
      by_cases hd₁ : d₁.height ≤ b
      · rw [if_pos hd₁]
        exact ih hd₁ hts
      · have hle := height_le_of_foldlM hts
        rw [if_neg hd₁, if_neg (by omega)]
        rfl

theorem formOf_confines {n m : Nat} {compile compile' : String → Except CompileError CompiledExpression}
    (h : ∀ text c, compile text = .ok c → compile' text =
      if c.height < m then .ok c else .error (.tooDeeplyNested r.options.maxDepth)) :
    r.Confines m (r.formOf known n compile) (r.formOf known m compile') := by
  intro e c hc
  simp only [formOf] at hc ⊢
  cases hknown : known e with
  | none =>
      rw [hknown] at hc
      exact h _ c hc
  | some d =>
      rw [hknown] at hc
      dsimp only at hc
      split at hc <;> cases hc
      rfl

/-- The limit on nesting decides no more than whether an expansion is refused for its depth. -/
theorem expandFrom_of_ok {n : Nat} {text : String} {c : CompiledExpression}
    (h : r.expandFrom known n text = .ok c) (m : Nat) :
    r.expandFrom known m text =
      if c.height < m then .ok c else .error (.tooDeeplyNested r.options.maxDepth) := by
  induction n generalizing text c m with
  | zero => cases h
  | succ n ih =>
      obtain ⟨d, hd, hc⟩ := bind_eq_ok_iff.1 h
      have hheight := Compiling.height_of_assemble hc
      cases m with
      | zero => rfl
      | succ m =>
          have hconfines : r.Confines m (r.formOf known n (r.expandFrom known n))
              (r.formOf known m (r.expandFrom known m)) := formOf_confines fun t v hv => ih hv m
          have hfold := foldlM_expandToken_confines hconfines (Nat.zero_le m) hd
          simp only [expandFrom, hfold]
          by_cases hle : d.height ≤ m
          · rw [if_pos hle, if_pos (by omega)]
            exact hc
          · rw [if_neg hle, if_neg (by omega)]
            rfl

end Registry

end Patchwork
