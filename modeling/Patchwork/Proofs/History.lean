import Patchwork.Proofs.Run

namespace Patchwork

inductive Definition where
  | expression (id source : String)
  | function (id : String) (f : Fragment)

inductive Request where
  | source (text : String)
  | registered (e : Expression)

namespace Request

def text : Request → String
  | source text => text
  | registered e => e.source

def compile (r : Registry) : Request → Compiling CompiledExpression
  | source text => r.compile text
  | registered e => e.compile r

end Request

def Definition.apply (w : Registry × Store) : Definition → Registry × Store
  | expression id source => (w.1.add id source w.2).2
  | function id f => (w.1.addFunction id f, w.2)

namespace Registry

def ofDefinitions (o : Options) (ds : List Definition) (s : Store) : Registry × Store :=
  ds.foldl Definition.apply (withOptions o, s)

def Holds (r : Registry) (e : Expression) : Prop := ∃ id, e ∈ r.variants id

def Apart (r : Registry) (e : Expression) : Prop := ∀ d, r.Holds d → e.serial ≠ d.serial

def Knows (r : Registry) : Request → Prop
  | .source _ => True
  | .registered e => r.Holds e

theorem find?_assign {α : Type} (key k : String) (value : α) (entries : List (String × α)) :
    (assign key value entries).find? (fun e => e.1 = k) =
      if key = k then some (key, value) else entries.find? (fun e => e.1 = k) := by
  induction entries with
  | nil => by_cases h : key = k <;> simp [assign, h]
  | cons head rest ih =>
      obtain ⟨j, v⟩ := head
      simp only [assign]
      split
      · next hj =>
          subst hj
          by_cases h : j = k <;> simp [h]
      · next hj =>
          rw [List.find?_cons, List.find?_cons, ih]
          by_cases h : key = k
          · subst h
            simp [hj]
          · by_cases hk : j = k <;> simp [hk, h]

theorem variants_assign (r : Registry) (id k : String) (es : List Expression) :
    variants { r with expressions := assign id es r.expressions } k =
      if id = k then es else r.variants k := by
  simp only [variants, find?_assign]
  split <;> rfl

theorem function?_addFunction (r : Registry) (id k : String) (f : Fragment) :
    (r.addFunction id f).function? k = if id = k then some f else r.function? k := by
  simp only [function?, addFunction, find?_assign]
  split <;> rfl

theorem function?_add (r : Registry) (id source : String) (s : Store) (k : String) :
    (r.add id source s).2.1.function? k = r.function? k := by
  unfold add
  split <;> rfl

/-- The variants after a registration: those of the other identifiers are the same, and a source
that was not there comes last, as a new expression. -/
theorem add_cases (r : Registry) (id source : String) (s : Store) :
    (r.add id source s).2 = (r, s) ∨
      (r.add id source s).2.2 = (s.create source).2 ∧
        (∀ e ∈ r.variants id, e.source ≠ source) ∧
        ∀ k, (r.add id source s).2.1.variants k =
          if id = k then r.variants id ++ [(s.create source).1] else r.variants k := by
  unfold add
  cases h : (r.variants id).find? (fun e => e.source = source) with
  | some e => exact .inl rfl
  | none =>
      refine .inr ⟨rfl, ?_, fun k => variants_assign r id k _⟩
      simpa using h

/-- The store has given out the serial numbers of the registry's expressions, no two of which share
one, and has published under no others. -/
structure Sits (r : Registry) (s : Store) : Prop where
  issued : ∀ e, r.Holds e → e.serial < s.nextSerial
  distinct : ∀ e d, r.Holds e → r.Holds d → e.serial = d.serial → e = d
  published : ∀ p ∈ s.published, p.1 < s.nextSerial

namespace Sits

variable {r : Registry} {s : Store}

theorem withOptions (o : Options) (h : ∀ p ∈ s.published, p.1 < s.nextSerial) :
    (Registry.withOptions o).Sits s where
  issued e he := by simp [Holds, Registry.withOptions, variants] at he
  distinct e d he := by simp [Holds, Registry.withOptions, variants] at he
  published := h

theorem create (h : r.Sits s) (source : String) : r.Sits (s.create source).2 where
  issued e he := Nat.lt_succ_of_lt (h.issued e he)
  distinct := h.distinct
  published p hp := Nat.lt_succ_of_lt (h.published p hp)

theorem add (h : r.Sits s) (id source : String) :
    (r.add id source s).2.1.Sits (r.add id source s).2.2 := by
  rcases r.add_cases id source s with heq | ⟨hs, -, hv⟩
  · rw [heq]
    exact h
  · have old (e) (he : (r.add id source s).2.1.Holds e) : r.Holds e ∨ e = (s.create source).1 := by
      obtain ⟨k, hk⟩ := he
      rw [hv k] at hk
      split at hk
      · rcases List.mem_append.1 hk with hk | hk
        · exact .inl ⟨id, hk⟩
        · exact .inr (List.mem_singleton.1 hk)
      · exact .inl ⟨k, hk⟩
    rw [hs]
    refine ⟨fun e he => ?_, fun e d he hd hed => ?_, (h.create source).published⟩
    · rcases old e he with he | rfl
      · exact (h.create source).issued e he
      · exact Nat.lt_succ_self _
    · rcases old e he with he | rfl <;> rcases old d hd with hd | rfl
      · exact h.distinct e d he hd hed
      · exact absurd hed (Nat.ne_of_lt (h.issued e he))
      · exact absurd hed.symm (Nat.ne_of_lt (h.issued d hd))
      · rfl

theorem apply (h : r.Sits s) (d : Definition) : (d.apply (r, s)).1.Sits (d.apply (r, s)).2 := by
  cases d with
  | expression id source => exact h.add id source
  | function id f => exact ⟨h.issued, h.distinct, h.published⟩

theorem foldl_apply (h : r.Sits s) (ds : List Definition) :
    (ds.foldl Definition.apply (r, s)).1.Sits (ds.foldl Definition.apply (r, s)).2 := by
  induction ds generalizing r s with
  | nil => exact h
  | cons d ds ih => exact ih (h.apply d)

theorem record (h : r.Sits s) (call : Call) : r.Sits (s.record call) :=
  ⟨h.issued, h.distinct, h.published⟩

theorem publish (h : r.Sits s) {e : Expression} (he : e.serial < s.nextSerial)
    (c : CompiledExpression) : r.Sits (s.publish e c) := by
  unfold Store.publish
  split
  · exact h
  · refine ⟨h.issued, h.distinct, fun p hp => ?_⟩
    rcases List.mem_cons.1 hp with rfl | hp
    · exact he
    · exact h.published p hp

end Sits

end Registry

namespace Store

theorem published?_create (s : Store) (source : String) (e : Expression) :
    (s.create source).2.published? e = s.published? e := rfl

theorem nextSerial_publish (s : Store) (e : Expression) (c : CompiledExpression) :
    (s.publish e c).nextSerial = s.nextSerial := by
  unfold publish
  split <;> rfl

theorem published?_publish_of_ne (s : Store) {e d : Expression} (c : CompiledExpression)
    (h : e.serial ≠ d.serial) : (s.publish e c).published? d = s.published? d := by
  unfold publish
  split
  · rfl
  · simp [published?, h]

theorem published?_publish_cases {r : Registry} {s : Store} (h : r.Sits s) {e d : Expression}
    (he : r.Holds e) (hd : r.Holds d) {b c : CompiledExpression}
    (hb : (s.publish e c).published? d = some b) : d = e ∧ b = c ∨ s.published? d = some b := by
  by_cases hed : e.serial = d.serial
  · obtain rfl := h.distinct e d he hd hed
    rw [published?_publish_self] at hb
    cases hs : s.published? e with
    | none =>
        rw [hs] at hb
        exact .inl ⟨rfl, (Option.some.inj hb).symm⟩
    | some a =>
        rw [hs] at hb
        exact .inr hb
  · rw [s.published?_publish_of_ne c hed] at hb
    exact .inr hb

theorem published?_of_fresh {r : Registry} {s : Store} (h : r.Sits s) {e : Expression}
    (he : s.nextSerial ≤ e.serial) : s.published? e = none := by
  simp only [published?, Option.map_eq_none_iff, List.find?_eq_none, decide_eq_true_eq]
  intro p hp heq
  have := h.published p hp
  omega

end Store

structure Store.Grows (s t : Store) : Prop where
  nextSerial : s.nextSerial = t.nextSerial
  published : ∀ e c, s.published? e = some c → t.published? e = some c

namespace Store.Grows

variable {s t u : Store}

theorem refl (s : Store) : s.Grows s := ⟨rfl, fun _ _ h => h⟩

theorem trans (h : s.Grows t) (h' : t.Grows u) : s.Grows u :=
  ⟨h.nextSerial.trans h'.nextSerial, fun e c hc => h'.published e c (h.published e c hc)⟩

theorem publish (s : Store) (e : Expression) (c : CompiledExpression) : s.Grows (s.publish e c) where
  nextSerial := (s.nextSerial_publish e c).symm
  published d b hb := by
    by_cases hed : e.serial = d.serial
    · have hsame : s.published? e = s.published? d := by simp only [published?, hed]
      have hsame' : (s.publish e c).published? e = (s.publish e c).published? d := by
        simp only [published?, hed]
      rw [← hsame', s.published?_publish_self, hsame, hb, Option.getD_some]
    · rw [s.published?_publish_of_ne c hed, hb]

theorem record (s : Store) (call : Call) : s.Grows (s.record call) := ⟨rfl, fun _ _ h => h⟩

theorem map_published? (h : s.Grows t) {es : List Expression} {cs : List CompiledExpression}
    (hes : es.map s.published? = cs.map some) : es.map t.published? = cs.map some := by
  induction es generalizing cs with
  | nil => exact hes
  | cons e es ih =>
      cases cs with
      | nil => cases hes
      | cons c cs =>
          rw [List.map_cons, List.map_cons] at hes
          obtain ⟨he, hes⟩ := List.cons.inj hes
          rw [List.map_cons, List.map_cons, h.published e c he, ih hes]

end Store.Grows

namespace Registry

structure Adds (r : Registry) (s t : Store) : Prop where
  grows : s.Grows t
  apart : ∀ e, r.Apart e → t.published? e = s.published? e

namespace Adds

variable {r : Registry} {s t u : Store}

theorem refl (s : Store) : r.Adds s s := ⟨.refl s, fun _ _ => rfl⟩

theorem trans (h : r.Adds s t) (h' : r.Adds t u) : r.Adds s u :=
  ⟨h.grows.trans h'.grows, fun e he => (h'.apart e he).trans (h.apart e he)⟩

theorem publish (s : Store) {e : Expression} (he : r.Holds e) (c : CompiledExpression) :
    r.Adds s (s.publish e c) :=
  ⟨.publish s e c, fun _ hd => s.published?_publish_of_ne c (hd e he).symm⟩

theorem record (s : Store) (call : Call) : r.Adds s (s.record call) := ⟨.record s call, fun _ _ => rfl⟩

end Adds

end Registry

theorem Registry.unpublished_foldl_apply {r : Registry} {s : Store} (h : r.Sits s)
    (hnone : ∀ e, r.Holds e → s.published? e = none) (ds : List Definition) :
    ∀ e, (ds.foldl Definition.apply (r, s)).1.Holds e →
      (ds.foldl Definition.apply (r, s)).2.published? e = none := by
  induction ds generalizing r s with
  | nil => exact hnone
  | cons d ds ih =>
      refine ih (h.apply d) fun e he => ?_
      cases d with
      | function id f => exact hnone e he
      | expression id source =>
          dsimp only at he ⊢
          rcases r.add_cases id source s with heq | ⟨hs, -, hv⟩
          · rw [heq] at he ⊢
            exact hnone e he
          · obtain ⟨k, hk⟩ := he
            rw [hs, Store.published?_create]
            rw [hv k] at hk
            split at hk
            · rcases List.mem_append.1 hk with hk | hk
              · exact hnone e ⟨id, hk⟩
              · rw [List.mem_singleton.1 hk]
                exact Store.published?_of_fresh h (Nat.le_refl _)
            · exact hnone e ⟨k, hk⟩

end Patchwork
