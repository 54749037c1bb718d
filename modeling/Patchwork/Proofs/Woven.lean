import Patchwork.Proofs.Weave

namespace Patchwork

open Token Marked

namespace Supply

variable {p : Supply} {ts : List Token} {flags : ModeFlags} {source : String} {c : CompiledExpression}

structure Lays (p : Supply) (c : CompiledExpression) : Prop where
  body : c.body.toList = (lex c.source).flatMap p.bare
  reads : marks c.body.toList = (lex c.source).flatMap p.bareMarking
  groupCount : c.groupCount = 1 + p.size (lex c.source)
  names : c.names.Spells (none :: (lex c.source).flatMap p.table)
  anchors : c.anchors.toList = p.anchorsFrom [] (lex c.source)
  variants : ∀ id, c.variants? id =
    if .reference id ∈ lex c.source then some (p.variants id) else none

theorem Fits.chars_marking (h : p.Fits ts) {t : Token} (ht : t ∈ ts) :
    Marked.chars (p.marking t) = p.bare t := by
  cases t with
  | reference id =>
      have hnames := (Draft.blockText_reads (h.sound id ht) (h.nonempty id ht)).2
      refine chars_marks fun x hx => ?_
      rw [hnames] at hx
      exact List.eq_of_mem_replicate hx
  | call id args =>
      refine chars_marks fun x hx => ?_
      simp [(h.output id args ht).2] at hx
  | namedOpen style name => rfl
  | groupOpen => rfl
  | charClass s => exact Marked.chars_ofClass s
  | text | escape | specialOpen => exact Marked.chars_plain _

theorem Fits.names_bareMarking (h : p.Fits ts) {t : Token} (ht : t ∈ ts) :
    Marked.names (p.bareMarking t) = List.replicate (p.table t).length none := by
  cases t with
  | reference id =>
      have hnames := (Draft.blockText_reads (h.sound id ht) (h.nonempty id ht)).2
      simpa [bareMarking, marking, table, Draft.length_blockTable] using hnames
  | call id args => simpa [bareMarking, marking, table, marked] using (h.output id args ht).2
  | namedOpen style name => rfl
  | groupOpen => rfl
  | text | escape | charClass | specialOpen => simp [bareMarking, marking, table, marked]

theorem Fits.names_flatMap (h : p.Fits ts) :
    Marked.names (ts.flatMap p.bareMarking) = List.replicate (p.size ts) none := by
  induction ts with
  | nil => rfl
  | cons t ts ih =>
      rw [List.flatMap_cons, names_append, h.names_bareMarking List.mem_cons_self,
        ih (h.tail), List.replicate_append_replicate, size, size,
        List.flatMap_cons, List.length_append]

theorem lays_of_assemble (htidy : Tidy source) (hfits : p.Fits (lex source))
    (hc : Compiling.assemble flags source (p.draft (lex source)) = .ok c) : p.Lays c := by
  obtain ⟨regex, anchored, -, -, hcount, rfl⟩ := Compiling.assemble_eq_ok hc
  have hstand : AllStand (lex source ++ []) := by
    rw [List.append_nil]
    exact allStand_lexList htidy.1
  have hholds : Draft.Holds p (lex source) (p.draft (lex source)) :=
    Draft.Holds.empty.foldl_take hfits (allStand_lexList htidy.1)
  have hmarks := marks_flatMap hstand hfits.piece ends_nil
  have hbare := marks_flatMap hstand hfits.barePiece ends_nil
  rw [List.append_nil, marks_nil, List.append_nil] at hmarks hbare
  have hreads := renumber_reads (p.draft (lex source)).text
  rw [hholds.text, hmarks] at hreads
  have hbody : (renumber (p.draft (lex source)).text).body.toList = (lex source).flatMap p.bare := by
    rw [hreads.body, Marked.chars, List.map_flatMap]
    rw [List.flatMap_def, List.flatMap_def]
    exact congrArg List.flatten (List.map_congr_left fun t ht => hfits.chars_marking ht)
  refine ⟨hbody, by rw [hbody, hbare], ?_, ?_, hholds.anchors, hholds.blocks⟩
  · rw [hreads.groupCount, hfits.length_names]
  · have hlen : (none :: (lex source).flatMap p.blockTable).length =
        (none :: Marked.names ((lex source).flatMap p.marking)).length := by
      simp [hfits.length_names, size, List.length_flatMap, p.length_blockTable]
    have hnames := hholds.names.absorb_zero hreads.names hlen
    rw [List.zipWith_cons_cons, hfits.zipWith_names] at hnames
    exact hnames

theorem Lays.sound (h : p.Lays c) (htidy : Tidy c.source) (hfits : p.Fits (lex c.source)) : c.Sound := by
  have hnames : Marked.names (marks c.body.toList) =
      List.replicate (p.size (lex c.source)) none := by
    rw [h.reads, hfits.names_flatMap]
  have htable : c.table = none :: (lex c.source).flatMap p.table := by
    refine List.ext_getElem ?_ fun i hi hi' => ?_
    · rw [c.length_table, h.groupCount, size, List.length_cons, Nat.add_comm]
    · have hget := h.names i
      rw [List.getElem?_eq_getElem hi'] at hget
      simpa [CompiledExpression.table] using hget
  refine ⟨?_, ?_, ?_, ?_, ?_⟩
  · have hhead : (renders (lex c.source)).head? ≠ some '?' := by
      rw [renders_lex]
      exact htidy.2
    rw [h.body]
    exact isTight_flatMap (allStand_lexList htidy.1) hhead hfits.barePiece
  · rw [hnames]
    exact fun x hx => List.eq_of_mem_replicate hx
  · rw [hnames, List.length_replicate, h.groupCount]
  · rw [htable]
    exact h.names
  · rw [h.names 0]
    rfl

end Supply

structure Kind where
  source : String → Prop
  function : Fragment → Prop

namespace Kind

/-- All sources are tidy, and what a function gives can stand anywhere and captures nothing. -/
structure Orderly (kind : Kind) : Prop where
  tidy : ∀ source, kind.source source → Tidy source
  output : ∀ f, kind.function f → ∀ args text, f.execute args = .ok text →
    IsSealed text.toList ∧ Marked.names (marks text.toList) = []

def tidy : Kind := ⟨Tidy, (· = .range)⟩

theorem orderly_tidy : tidy.Orderly where
  tidy _ h := h
  output f hf args text h := by
    obtain rfl : f = .range := hf
    exact NumberRange.sealed_of_execute h

end Kind

structure Supply.Offers (p : Supply) (good : CompiledExpression → Prop) (function : Fragment → Prop)
    (ts : List Token) : Prop where
  nonempty : ∀ id, .reference id ∈ ts → p.variants id ≠ []
  distinct : ∀ id, .reference id ∈ ts → (p.variants id).Pairwise (·.source ≠ ·.source)
  good : ∀ id, .reference id ∈ ts → ∀ v ∈ p.variants id, good v
  called : ∀ id args, .call id args ∈ ts →
    ∃ f, function f ∧ f.execute (argumentsOf args) = .ok (p.output id args)

theorem Supply.Offers.fits {p : Supply} {good : CompiledExpression → Prop} {kind : Kind} {ts : List Token}
    (h : p.Offers good kind.function ts) (horderly : kind.Orderly) (hsound : ∀ v, good v → v.Sound) :
    p.Fits ts where
  nonempty := h.nonempty
  distinct := h.distinct
  sound id hid v hv := hsound v (h.good id hid v hv)
  output id args hid := by
    obtain ⟨f, hf, htext⟩ := h.called id args hid
    exact horderly.output f hf _ _ htext

inductive CompiledExpression.Woven (kind : Kind) : CompiledExpression → Prop where
  | intro {p : Supply} {flags : ModeFlags} {source : String} {c : CompiledExpression}
      (hkind : kind.source source)
      (nonempty : ∀ id, .reference id ∈ lex source → p.variants id ≠ [])
      (distinct : ∀ id, .reference id ∈ lex source → (p.variants id).Pairwise (·.source ≠ ·.source))
      (woven : ∀ id, .reference id ∈ lex source → ∀ v ∈ p.variants id, Woven kind v)
      (called : ∀ id args, .call id args ∈ lex source →
        ∃ f, kind.function f ∧ f.execute (argumentsOf args) = .ok (p.output id args))
      (assembled : Compiling.assemble flags source (p.draft (lex source)) = .ok c) : Woven kind c

namespace CompiledExpression

variable {kind : Kind} {c : CompiledExpression}

theorem Woven.sound (h : c.Woven kind) (horderly : kind.Orderly) : c.Sound := by
  induction h with
  | intro hkind nonempty distinct _ called assembled ih =>
      have htidy := horderly.tidy _ hkind
      have hoffers : Supply.Offers _ Sound kind.function (lex _) := ⟨nonempty, distinct, ih, called⟩
      have hfits := hoffers.fits horderly fun _ hv => hv
      have hlays := Supply.lays_of_assemble htidy hfits assembled
      obtain ⟨_, _, -, -, -, rfl⟩ := Compiling.assemble_eq_ok assembled
      exact hlays.sound htidy hfits

theorem Woven.groupCount_pos (h : c.Woven kind) : 0 < c.groupCount := by
  cases h with
  | @intro p flags source _ hkind nonempty distinct woven called assembled =>
      obtain ⟨_, _, -, -, -, rfl⟩ := Compiling.assemble_eq_ok assembled
      have hcount := (renumber_reads (p.draft (lex source)).text).groupCount
      dsimp only
      omega

end CompiledExpression

namespace Draft

variable {p : Supply} {v : CompiledExpression} {vs : List CompiledExpression}

theorem mem_addVariants {known : List CompiledExpression} (h : v ∈ addVariants known vs) :
    v ∈ known ∨ v ∈ vs := by
  induction vs generalizing known with
  | nil => exact .inl h
  | cons c cs ih =>
      rw [addVariants, List.foldl_cons] at h
      split at h
      · exact (ih h).imp_right (List.mem_cons_of_mem c)
      · rcases ih h with hknown | hcs
        · rcases List.mem_append.1 hknown with hknown | hc
          · exact .inl hknown
          · exact .inr (List.mem_singleton.1 hc ▸ List.mem_cons_self)
        · exact .inr (List.mem_cons_of_mem c hcs)

theorem mem_addBlock {id : String} {blocks : List (String × List CompiledExpression)}
    {b : String × List CompiledExpression} (hb : b ∈ addBlock id vs blocks) (hv : v ∈ b.2) :
    (∃ b' ∈ blocks, v ∈ b'.2) ∨ v ∈ vs := by
  induction blocks with
  | nil =>
      obtain rfl := List.mem_singleton.1 hb
      rcases mem_addVariants hv with hnone | hvs
      · cases hnone
      · exact .inr hvs
  | cons first rest ih =>
      unfold addBlock at hb
      split at hb
      · rcases List.mem_cons.1 hb with rfl | hb
        · exact (mem_addVariants hv).imp_left fun hknown => ⟨first, List.mem_cons_self, hknown⟩
        · exact .inl ⟨b, List.mem_cons_of_mem first hb, hv⟩
      · rcases List.mem_cons.1 hb with rfl | hb
        · exact .inl ⟨_, List.mem_cons_self, hv⟩
        · exact (ih hb).imp_left (Exists.imp fun b' => And.imp_left (List.mem_cons_of_mem first))

theorem mem_blocks_foldl {ts : List Token} {d : Draft} {b : String × List CompiledExpression}
    (hb : b ∈ (ts.foldl p.take d).blocks) (hv : v ∈ b.2) :
    (∃ b' ∈ d.blocks, v ∈ b'.2) ∨ ∃ id, .reference id ∈ ts ∧ v ∈ p.variants id := by
  induction ts generalizing d with
  | nil => exact .inl ⟨b, hb, hv⟩
  | cons t ts ih =>
      rcases ih hb with ⟨b', hb', hv'⟩ | ⟨id, hid, hv'⟩
      · cases t with
        | reference id =>
            rcases mem_addBlock hb' hv' with hd | hvariant
            · exact .inl hd
            · exact .inr ⟨id, List.mem_cons_self, hvariant⟩
        | text | escape | charClass | groupOpen | namedOpen | specialOpen | call => exact .inl ⟨b', hb', hv'⟩
      · exact .inr ⟨id, List.mem_cons_of_mem t hid, hv'⟩

end Draft

theorem Compiling.mem_variants_of_assemble {p : Supply} {flags : ModeFlags} {source id : String}
    {c v : CompiledExpression} {vs : List CompiledExpression}
    (h : assemble flags source (p.draft (lex source)) = .ok c) (hvs : c.variants? id = some vs) (hv : v ∈ vs) :
    ∃ id, .reference id ∈ lex source ∧ v ∈ p.variants id := by
  obtain ⟨_, _, -, -, -, rfl⟩ := assemble_eq_ok h
  obtain ⟨b, hb, rfl⟩ := Option.map_eq_some_iff.1 hvs
  rcases Draft.mem_blocks_foldl (List.mem_of_find?_eq_some hb) hv with ⟨b', hb', -⟩ | hreference
  · cases hb'
  · exact hreference

theorem CompiledExpression.Woven.variants {kind : Kind} {c : CompiledExpression} (h : c.Woven kind)
    {id : String} {vs : List CompiledExpression} (hvs : c.variants? id = some vs) :
    ∀ v ∈ vs, v.Woven kind := by
  cases h with
  | intro _ _ _ woven _ assembled =>
      intro v hv
      obtain ⟨id', hid, hv⟩ := Compiling.mem_variants_of_assemble assembled hvs hv
      exact woven id' hid v hv

end Patchwork
