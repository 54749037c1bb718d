import Patchwork.Proofs.Block
import Patchwork.Proofs.Run

namespace Patchwork

open Token Marked

/-- What stands for the references and the calls of a source. -/
structure Supply where
  variants : String → List CompiledExpression
  output : String → String → String

namespace Supply

variable (p : Supply)

def take (d : Draft) : Token → Draft
  | .reference id => d.splice id (p.variants id)
  | .call id args => d.append (p.output id args)
  | t => d.append t.render

def draft (ts : List Token) : Draft := ts.foldl p.take .empty

def written : Token → List Char
  | .reference id => (Draft.blockText (p.variants id)).toList
  | .call id args => (p.output id args).toList
  | t => t.chars

def marking : Token → List Marked
  | .reference id => marks (Draft.blockText (p.variants id)).toList
  | .call id args => marks (p.output id args).toList
  | t => t.marked

def bare : Token → List Char
  | .namedOpen .. => ['(']
  | t => p.written t

def bareMarking : Token → List Marked
  | .namedOpen .. => [opener none]
  | t => p.marking t

def table : Token → List (Option String)
  | .reference id => Draft.blockTable (p.variants id)
  | t => Marked.names t.marked

/-- The same, without the names of the source's own groups. -/
def blockTable : Token → List (Option String)
  | .reference id => Draft.blockTable (p.variants id)
  | t => (Marked.names t.marked).map fun _ => none

def size (ts : List Token) : Nat := (ts.flatMap p.table).length

def anchorsFrom (before : List Token) : List Token → List (Nat × Anchor)
  | [] => []
  | t@(.reference id) :: ts =>
    (1 + p.size before, ⟨id, before.count t⟩) :: anchorsFrom (before ++ [t]) ts
  | t :: ts => anchorsFrom (before ++ [t]) ts

/-- The references have sound variants, no two of one source, and the calls yield groups that capture
nothing. -/
structure Fits (ts : List Token) : Prop where
  nonempty : ∀ id, .reference id ∈ ts → p.variants id ≠ []
  distinct : ∀ id, .reference id ∈ ts → (p.variants id).Pairwise (·.source ≠ ·.source)
  sound : ∀ id, .reference id ∈ ts → ∀ v ∈ p.variants id, v.Sound
  output : ∀ id args, .call id args ∈ ts → IsSealed (p.output id args).toList ∧
    Marked.names (marks (p.output id args).toList) = []

variable {p} {ts more : List Token}

theorem Fits.of_append (h : p.Fits (ts ++ more)) : p.Fits ts where
  nonempty id hid := h.nonempty id (List.mem_append_left _ hid)
  distinct id hid := h.distinct id (List.mem_append_left _ hid)
  sound id hid := h.sound id (List.mem_append_left _ hid)
  output id args hid := h.output id args (List.mem_append_left _ hid)

theorem Fits.of_append_right (h : p.Fits (ts ++ more)) : p.Fits more where
  nonempty id hid := h.nonempty id (List.mem_append_right _ hid)
  distinct id hid := h.distinct id (List.mem_append_right _ hid)
  sound id hid := h.sound id (List.mem_append_right _ hid)
  output id args hid := h.output id args (List.mem_append_right _ hid)

theorem Fits.tail {t : Token} (h : p.Fits (t :: ts)) : p.Fits ts := by
  have hcons : p.Fits ([t] ++ ts) := h
  exact hcons.of_append_right

theorem Fits.piece (h : p.Fits ts) : ∀ t ∈ ts, Piece t (p.written t) (p.marking t) := by
  intro t ht
  cases t with
  | reference id => exact .filling (Draft.blockText_reads (h.sound id ht) (h.nonempty id ht)).1
  | call id args => exact .filling (h.output id args ht).1
  | text | escape | charClass | groupOpen | namedOpen | specialOpen => exact .own rfl

theorem Fits.barePiece (h : p.Fits ts) : ∀ t ∈ ts, Piece t (p.bare t) (p.bareMarking t) := by
  intro t ht
  cases t with
  | namedOpen style name => exact .unnamed style name
  | text | escape | charClass | groupOpen | specialOpen | reference | call => exact h.piece _ ht

/-- The names of the groups in the text written for a token, and those that its blocks had taken out
before, make up the names of its groups. -/
theorem Fits.names_marking (h : p.Fits ts) {t : Token} (ht : t ∈ ts) :
    (Marked.names (p.marking t)).length = (p.table t).length ∧
      List.zipWith (fun x y => y.or x) (p.blockTable t) (Marked.names (p.marking t)) = p.table t := by
  cases t with
  | reference id =>
      have hnames := (Draft.blockText_reads (h.sound id ht) (h.nonempty id ht)).2
      simp only [marking, table, blockTable, hnames, List.length_replicate, Draft.length_blockTable]
      refine ⟨trivial, List.ext_getElem (by simp [Draft.length_blockTable]) fun i hi hi' => ?_⟩
      simp
  | call id args =>
      have hnames := (h.output id args ht).2
      simp [marking, table, blockTable, hnames, marked]
  | text | escape | charClass | groupOpen | namedOpen | specialOpen =>
      simp [marking, table, blockTable, marked]

theorem Fits.length_names (h : p.Fits ts) :
    (Marked.names (ts.flatMap p.marking)).length = p.size ts := by
  induction ts with
  | nil => rfl
  | cons t ts ih =>
      rw [List.flatMap_cons, names_append, List.length_append, (h.names_marking List.mem_cons_self).1,
        ih (h.tail), size, size, List.flatMap_cons, List.length_append]

theorem length_blockTable (p : Supply) (t : Token) : (p.blockTable t).length = (p.table t).length := by
  cases t <;> simp [blockTable, table]

theorem Fits.zipWith_names (h : p.Fits ts) :
    List.zipWith (fun x y => y.or x) (ts.flatMap p.blockTable) (Marked.names (ts.flatMap p.marking)) =
      ts.flatMap p.table := by
  induction ts with
  | nil => rfl
  | cons t ts ih =>
      obtain ⟨hlen, hzip⟩ := h.names_marking (t := t) List.mem_cons_self
      have hblock : (p.blockTable t).length = (Marked.names (p.marking t)).length :=
        (p.length_blockTable t).trans hlen.symm
      rw [List.flatMap_cons, List.flatMap_cons, names_append, List.zipWith_append hblock, hzip,
        ih (h.tail), List.flatMap_cons]

theorem size_append (xs ys : List Token) : p.size (xs ++ ys) = p.size xs + p.size ys := by
  simp [size]

theorem anchorsFrom_append (before xs ys : List Token) :
    p.anchorsFrom before (xs ++ ys) =
      p.anchorsFrom before xs ++ p.anchorsFrom (before ++ xs) ys := by
  induction xs generalizing before with
  | nil => simp [anchorsFrom]
  | cons x xs ih => cases x <;> simp [anchorsFrom, ih]

theorem countP_anchorsFrom (before ts : List Token) (id : String) :
    ((p.anchorsFrom before ts).map Prod.snd).countP (fun a => a.id = id) =
      ts.count (.reference id) := by
  induction ts generalizing before with
  | nil => rfl
  | cons t ts ih =>
      cases t with
      | reference id' =>
          simp only [anchorsFrom, List.map_cons, List.countP_cons, List.count_cons, ih]
          by_cases hid : id' = id <;> simp [hid]
      | text | escape | charClass | groupOpen | namedOpen | specialOpen | call =>
          simp [anchorsFrom, ih]

theorem mem_anchorsFrom {before ts : List Token} {e : Nat × Anchor} (h : e ∈ p.anchorsFrom before ts) :
    ∃ xs ys, ts = xs ++ .reference e.2.id :: ys ∧ e.1 = 1 + p.size (before ++ xs) ∧
      e.2.occurrence = (before ++ xs).count (.reference e.2.id) := by
  induction ts generalizing before with
  | nil => simp [anchorsFrom] at h
  | cons t ts ih =>
      have hrest : e ∈ p.anchorsFrom (before ++ [t]) ts → ∃ xs ys, t :: ts = xs ++ .reference e.2.id :: ys ∧
          e.1 = 1 + p.size (before ++ xs) ∧ e.2.occurrence = (before ++ xs).count (.reference e.2.id) := by
        intro h
        obtain ⟨xs, ys, rfl, hindex, hcount⟩ := ih h
        refine ⟨t :: xs, ys, rfl, ?_, ?_⟩
        · simpa using hindex
        · simpa using hcount
      cases t with
      | reference id =>
          rcases List.mem_cons.1 h with rfl | h
          · exact ⟨[], ts, rfl, by simp, by simp⟩
          · exact hrest h
      | text | escape | charClass | groupOpen | namedOpen | specialOpen | call => exact hrest h

theorem Fits.blockSize_pos (h : p.Fits ts) {id : String} (hid : .reference id ∈ ts) :
    0 < Draft.blockSize (p.variants id) := by
  unfold Draft.blockSize
  split
  · next c hc =>
      have := (h.sound id hid c (by simp [hc])).groupCount
      omega
  · omega

theorem Fits.anchorsFrom_lt (h : p.Fits ts) (before : List Token) :
    ∀ e ∈ p.anchorsFrom before ts, e.1 < 1 + p.size (before ++ ts) := by
  induction ts generalizing before with
  | nil => simp [anchorsFrom]
  | cons t ts ih =>
      intro e he
      have hrest : e ∈ p.anchorsFrom (before ++ [t]) ts → e.1 < 1 + p.size (before ++ t :: ts) := by
        intro he
        simpa using ih (h.tail) (before ++ [t]) e he
      cases t with
      | reference id =>
          rcases List.mem_cons.1 he with rfl | he
          · have hpos := h.blockSize_pos List.mem_cons_self
            have hsize : p.size (.reference id :: ts) = Draft.blockSize (p.variants id) + p.size ts := by
              simp [size, table, Draft.length_blockTable]
            rw [size_append, hsize]
            dsimp only
            omega
          · exact hrest he
      | text | escape | charClass | groupOpen | namedOpen | specialOpen | call => exact hrest he

end Supply

namespace Draft

open CompiledExpression

def blockOf? (blocks : List (String × List CompiledExpression)) (id : String) :
    Option (List CompiledExpression) :=
  (blocks.find? fun b => b.1 = id).map Prod.snd

theorem addVariants_of_known {known more : List CompiledExpression}
    (h : ∀ c ∈ more, c ∈ known) : addVariants known more = known := by
  induction more with
  | nil => rfl
  | cons c cs ih =>
      obtain ⟨hc, hcs⟩ := List.forall_mem_cons.1 h
      have hany : known.any c.sameSource = true :=
        List.any_eq_true.2 ⟨c, hc, by simp [sameSource]⟩
      rw [addVariants, List.foldl_cons, if_pos hany]
      exact ih hcs

theorem addVariants_of_distinct {known more : List CompiledExpression}
    (h : (known ++ more).Pairwise (·.source ≠ ·.source)) : addVariants known more = known ++ more := by
  induction more generalizing known with
  | nil => simp [addVariants]
  | cons c cs ih =>
      have hany : known.any c.sameSource = false := by
        rw [List.any_eq_false]
        intro d hd
        have := (List.pairwise_append.1 h).2.2 d hd c List.mem_cons_self
        simpa [sameSource] using Ne.symm this
      rw [addVariants, List.foldl_cons, hany, if_neg Bool.false_ne_true]
      have hpairs : ((known ++ [c]) ++ cs).Pairwise (·.source ≠ ·.source) := by simpa using h
      have hih := ih hpairs
      rw [addVariants] at hih
      rw [hih, List.append_assoc, List.singleton_append]

theorem blockOf?_addBlock (id k : String) (vs : List CompiledExpression)
    (blocks : List (String × List CompiledExpression)) :
    blockOf? (addBlock id vs blocks) k =
      if id = k then some (addVariants ((blockOf? blocks id).getD []) vs) else blockOf? blocks k := by
  induction blocks with
  | nil => by_cases h : id = k <;> simp [addBlock, blockOf?, h]
  | cons b rest ih =>
      obtain ⟨j, known⟩ := b
      simp only [addBlock]
      by_cases hj : j = id
      · subst hj
        by_cases hk : j = k
        · subst hk
          simp [blockOf?]
        · simp [blockOf?, hk]
      · rw [if_neg hj]
        by_cases hk : j = k
        · subst hk
          simp [blockOf?, Ne.symm hj]
        · have hcons : ∀ xs : List (String × List CompiledExpression), ∀ i, j ≠ i →
              blockOf? ((j, known) :: xs) i = blockOf? xs i := by
            intro xs i hi
            simp [blockOf?, hi]
          rw [hcons _ _ hk, hcons _ _ hk, hcons _ _ hj, ih]

structure Holds (p : Supply) (ts : List Token) (d : Draft) : Prop where
  text : d.text.toList = ts.flatMap p.written
  names : d.names.Spells (none :: ts.flatMap p.blockTable)
  anchors : d.anchors.toList = p.anchorsFrom [] ts
  blocks : ∀ id, blockOf? d.blocks id = if .reference id ∈ ts then some (p.variants id) else none

variable {p : Supply} {ts more : List Token} {d : Draft}

theorem Holds.empty : Holds p [] .empty where
  text := rfl
  names := GroupNames.Spells.empty
  anchors := rfl
  blocks _ := rfl

theorem Holds.nextGroup (h : Holds p ts d) (hfits : p.Fits ts) (hstand : AllStand (ts ++ more)) :
    d.nextGroup = 1 + p.size ts := by
  have hmarks := marks_flatMap hstand hfits.piece ends_nil
  rw [List.append_nil, marks_nil, List.append_nil] at hmarks
  rw [Draft.nextGroup, countCapturing_eq, h.text, hmarks, hfits.length_names, Nat.add_comm]

theorem Holds.append (h : Holds p ts d) {t : Token} {s : String} (hs : s.toList = p.written t)
    (htable : ∀ y ∈ p.blockTable t, y = none) (hanchors : ∀ before, p.anchorsFrom before [t] = [])
    (hblocks : ∀ id, t ≠ .reference id) : Holds p (ts ++ [t]) (d.append s) where
  text := by simp [Draft.append, h.text, hs]
  names := by
    have hnames := h.names.append_none _ htable
    rw [List.cons_append] at hnames
    simpa [Draft.append] using hnames
  anchors := by
    rw [Supply.anchorsFrom_append, hanchors, List.append_nil]
    exact h.anchors
  blocks id := by
    have hmem : .reference id ∈ ts ++ [t] ↔ .reference id ∈ ts := by
      simp [Ne.symm (hblocks id)]
    simp only [hmem]
    exact h.blocks id

theorem names_blockNames {names : GroupNames} {xs : List (Option String)} (hnames : names.Spells xs)
    {vs : List CompiledExpression} (hvs : ∀ v ∈ vs, v.Sound) :
    (blockNames names xs.length vs).Spells (xs ++ blockTable vs) := by
  have heach : ∀ {vs : List CompiledExpression} {names : GroupNames} {xs : List (Option String)},
      (∀ v ∈ vs, v.Sound) → names.Spells xs →
        (absorbEach names xs.length vs).Spells (xs ++ vs.flatMap table) := by
    intro vs
    induction vs with
    | nil =>
        intro names xs _ h
        simpa [absorbEach] using h
    | cons c cs ih =>
        intro names xs hvs h
        obtain ⟨hc, hcs⟩ := List.forall_mem_cons.1 hvs
        have hih := ih hcs (h.absorb hc.table)
        simpa [absorbEach, length_table] using hih
  unfold blockNames blockTable
  split
  · next c => exact hnames.absorb (hvs c (by simp)).table
  · have hslot := heach hvs (hnames.append_none [none] (by simp))
    simpa using hslot

theorem Holds.splice (h : Holds p ts d) {id : String} (hfits : p.Fits (ts ++ [.reference id]))
    (hstand : AllStand (ts ++ more)) : Holds p (ts ++ [.reference id]) (d.splice id (p.variants id)) := by
  have hid : Token.reference id ∈ ts ++ [.reference id] := by simp
  have hnext := h.nextGroup hfits.of_append hstand
  have hlen : (none :: ts.flatMap p.blockTable).length = 1 + p.size ts := by
    simp [Supply.size, List.length_flatMap, p.length_blockTable, Nat.add_comm]
  refine ⟨?_, ?_, ?_, fun k => ?_⟩
  · simp [Draft.splice, h.text, Supply.written]
  · have hnames := names_blockNames h.names (hfits.sound id hid)
    rw [hlen, ← hnext, List.cons_append] at hnames
    simpa [Draft.splice, Supply.blockTable] using hnames
  · have hlt := hfits.of_append.anchorsFrom_lt []
    have hcount := Supply.countP_anchorsFrom (p := p) [] ts id
    simp only [Draft.splice, Anchors.register, GroupMap.toList_insert, h.anchors, hnext,
      Supply.anchorsFrom_append, Supply.anchorsFrom]
    rw [GroupMap.insertEntry_of_lt (by simpa using hlt)]
    simp [Anchors.occurrences, GroupMap.values, h.anchors, hcount]
  · simp only [Draft.splice]
    rw [blockOf?_addBlock, h.blocks, h.blocks]
    by_cases hk : id = k
    · subst hk
      rw [if_pos rfl, if_pos hid]
      split
      · rw [Option.getD_some, addVariants_of_known fun c hc => hc]
      · rw [Option.getD_none, addVariants_of_distinct (by simpa using hfits.distinct id hid)]
        rfl
    · have hmem : .reference k ∈ ts ++ [.reference id] ↔ .reference k ∈ ts := by
        simp [Ne.symm hk]
      simp only [if_neg hk, hmem]

theorem Holds.take (h : Holds p ts d) {t : Token} (hfits : p.Fits (ts ++ [t]))
    (hstand : AllStand (ts ++ more)) : Holds p (ts ++ [t]) (p.take d t) := by
  cases t with
  | reference id => exact h.splice hfits hstand
  | call id args => exact h.append rfl (by simp [Supply.blockTable, marked]) (fun _ => rfl) (by simp)
  | text | escape | charClass | groupOpen | namedOpen | specialOpen =>
      exact h.append rfl (by simp [Supply.blockTable, marked]) (fun _ => rfl) (by simp)

theorem Holds.foldl_take (h : Holds p ts d) (hfits : p.Fits (ts ++ more))
    (hstand : AllStand (ts ++ more)) : Holds p (ts ++ more) (more.foldl p.take d) := by
  induction more generalizing ts d with
  | nil => simpa using h
  | cons t more ih =>
      have hassoc : ts ++ t :: more = ts ++ [t] ++ more := by simp
      rw [hassoc] at hfits ⊢
      exact ih (h.take hfits.of_append hstand) hfits (hassoc ▸ hstand)

end Draft

end Patchwork
