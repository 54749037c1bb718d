import Patchwork.Proofs.Woven

namespace Patchwork

open Token

namespace Marked

def unname : Marked → Marked
  | (c, some (.opener _)) => (c, some (.opener none))
  | m => m

def enclosed (ms : List Marked) : List Marked := opener none :: ms ++ [(')', none)]

def alternation : List (List Marked) → List Marked
  | [] => []
  | [ms] => enclosed ms
  | ms :: mss => enclosed ms ++ ('|', none) :: alternation mss

def block : List (List Marked) → List Marked
  | [ms] => enclosed ms
  | mss => enclosed (alternation mss)

theorem block_several {mss : List (List Marked)} (hlen : mss.length ≠ 1) :
    block mss = enclosed (alternation mss) := by
  match mss with
  | [] | _ :: _ :: _ => rfl
  | [ms] => exact absurd rfl hlen

theorem exists_block_eq (mss : List (List Marked)) : ∃ ms, block mss = opener none :: ms := by
  by_cases hlen : mss.length = 1
  · obtain ⟨ms, rfl⟩ := List.length_eq_one_iff.1 hlen
    exact ⟨_, rfl⟩
  · exact ⟨_, block_several hlen⟩

theorem map_unname_enclosed (ms : List Marked) : (enclosed ms).map unname = enclosed (ms.map unname) := by
  simp only [enclosed, List.map_append, List.map_cons, List.map_nil]
  rfl

theorem map_unname_alternation (mss : List (List Marked)) :
    (alternation mss).map unname = alternation (mss.map (List.map unname)) := by
  induction mss with
  | nil => rfl
  | cons ms mss ih =>
      cases mss with
      | nil => exact map_unname_enclosed ms
      | cons ns mss =>
          simp only [alternation, List.map_append, List.map_cons, map_unname_enclosed] at ih ⊢
          rw [ih]
          rfl

theorem map_unname_block (mss : List (List Marked)) :
    (block mss).map unname = block (mss.map (List.map unname)) := by
  by_cases hlen : mss.length = 1
  · obtain ⟨ms, rfl⟩ := List.length_eq_one_iff.1 hlen
    exact map_unname_enclosed ms
  · rw [block_several hlen, block_several (by simpa using hlen), map_unname_enclosed,
      map_unname_alternation]

theorem map_unname_of_names {ms : List Marked} (h : ∀ x ∈ names ms, x = none) : ms.map unname = ms := by
  induction ms with
  | nil => rfl
  | cons m ms ih =>
      obtain ⟨c, mark⟩ := m
      cases mark with
      | none =>
          rw [List.map_cons, ih h]
          rfl
      | some mark =>
          cases mark with
          | charClass s =>
              rw [List.map_cons, ih h]
              rfl
          | opener name =>
              have hname : name = none := h name List.mem_cons_self
              rw [List.map_cons, ih fun x hx => h x (List.mem_cons_of_mem _ hx), hname]
              rfl

theorem length_names_map_unname (ms : List Marked) : (names (ms.map unname)).length = (names ms).length := by
  induction ms with
  | nil => rfl
  | cons m ms ih =>
      obtain ⟨c, mark⟩ := m
      cases mark with
      | none => exact ih
      | some mark =>
          cases mark with
          | charClass s => exact ih
          | opener name => exact congrArg Nat.succ ih

theorem names_enclosed (ms : List Marked) : names (enclosed ms) = none :: names ms := by
  rw [enclosed, List.cons_append, names_cons_opener, names_append]
  exact congrArg _ (List.append_nil _)

theorem names_alternation (mss : List (List Marked)) :
    names (alternation mss) = mss.flatMap fun ms => none :: names ms := by
  induction mss with
  | nil => rfl
  | cons ms mss ih =>
      cases mss with
      | nil => simp [alternation, names_enclosed]
      | cons ns mss =>
          rw [alternation, names_append, names_cons_plain, names_enclosed, ih]
          · rfl
          · simp

theorem exists_alternation_eq (before after : List (List Marked)) (ms : List Marked) :
    ∃ front back, alternation (before ++ ms :: after) = front ++ enclosed ms ++ back ∧
      (names front).length = (before.map fun xs => 1 + (names xs).length).sum := by
  induction before with
  | nil =>
      cases after with
      | nil => exact ⟨[], [], by simp [alternation], rfl⟩
      | cons ns after => exact ⟨[], ('|', none) :: alternation (ns :: after), rfl, rfl⟩
  | cons xs before ih =>
      obtain ⟨front, back, heq, hcount⟩ := ih
      refine ⟨enclosed xs ++ ('|', none) :: front, back, ?_, ?_⟩
      · cases hrest : before ++ ms :: after with
        | nil => simp at hrest
        | cons ns rest =>
            rw [List.cons_append, hrest, alternation, ← hrest, heq]
            · simp
            · simp
      · rw [names_append, names_cons_plain, names_enclosed, List.length_append, List.length_cons, hcount,
          List.map_cons, List.sum_cons]
        omega

end Marked

namespace Draft

open Marked

variable {vs : List CompiledExpression}

theorem marks_alternatives (hvs : ∀ v ∈ vs, v.Sound) :
    marks (alternatives vs) = alternation (vs.map fun v => marks v.body.toList) := by
  induction vs with
  | nil => exact marks_nil
  | cons c cs ih =>
      obtain ⟨hc, hcs⟩ := List.forall_mem_cons.1 hvs
      cases cs with
      | nil => exact hc.tight.marks_group
      | cons d ds =>
          have hbar : isStructural '|' = false := by decide
          rw [alternatives_cons_cons, List.append_assoc, hc.tight.marks_group_append, List.singleton_append,
            marks_ordinary hbar, ih hcs]
          simp [alternation, enclosed]

theorem marks_blockText (hvs : ∀ v ∈ vs, v.Sound) (h : vs ≠ []) :
    marks (blockText vs).toList = block (vs.map fun v => marks v.body.toList) := by
  by_cases hlen : vs.length = 1
  · obtain ⟨c, rfl⟩ := List.length_eq_one_iff.1 hlen
    rw [toList_blockText_single]
    exact (hvs c (by simp)).tight.marks_group
  · rw [toList_blockText_several h hlen, (alternatives_reads hvs h).1.tight.marks_group,
      marks_alternatives hvs, block_several (by simpa using hlen)]
    rfl

end Draft

namespace CompiledExpression

open Marked

/-- The body, with the names that its openers had in the sources that they come from. -/
def declared (c : CompiledExpression) : List Marked :=
  (lex c.source).flatMap fun t =>
    match t with
    | .reference id =>
      match _h : c.variants? id with
      | some vs => block (vs.attach.map fun v => v.1.declared)
      | none => block []
    | .call _ args => marks ((NumberRange.execute (argumentsOf args)).toOption.getD "").toList
    | t => t.marked
termination_by sizeOf c
decreasing_by exact Nat.lt_trans (List.sizeOf_lt_of_mem v.2) (sizeOf_lt_of_variants? _h)

def declaredFor (c : CompiledExpression) : Token → List Marked
  | .reference id => block (((c.variants? id).getD []).map declared)
  | .call _ args => marks ((NumberRange.execute (argumentsOf args)).toOption.getD "").toList
  | t => t.marked

theorem declared_eq (c : CompiledExpression) : c.declared = (lex c.source).flatMap c.declaredFor := by
  rw [declared, List.flatMap_def, List.flatMap_def]
  refine congrArg _ (List.map_congr_left fun t _ => ?_)
  cases t with
  | reference id =>
      simp only [declaredFor]
      split
      · next vs hvs => simp [hvs]
      · next hvs => simp [hvs]
  | text | escape | charClass | groupOpen | namedOpen | specialOpen | call => rfl

variable {kind : Kind} {c : CompiledExpression} {p : Supply}

structure WovenFrom (kind : Kind) (p : Supply) (c : CompiledExpression) : Prop where
  lays : p.Lays c
  fits : p.Fits (lex c.source)
  woven : ∀ id, .reference id ∈ lex c.source → ∀ v ∈ p.variants id, v.Woven kind
  called : ∀ id args, .call id args ∈ lex c.source →
    ∃ f, kind.function f ∧ f.execute (argumentsOf args) = .ok (p.output id args)

theorem wovenFrom_of_assemble (horderly : kind.Orderly) {flags : ModeFlags} {source : String}
    (hkind : kind.source source) (hoffers : p.Offers (Woven kind) kind.function (lex source))
    (hc : Compiling.assemble flags source (p.draft (lex source)) = .ok c) : c.WovenFrom kind p := by
  have hfits := hoffers.fits horderly fun v hv => hv.sound horderly
  have hlays := Supply.lays_of_assemble (horderly.tidy _ hkind) hfits hc
  obtain ⟨_, _, -, -, -, rfl⟩ := Compiling.assemble_eq_ok hc
  exact ⟨hlays, hfits, hoffers.good, hoffers.called⟩

theorem Woven.exists_from (h : c.Woven kind) (horderly : kind.Orderly) : ∃ p, c.WovenFrom kind p := by
  cases h with
  | intro hkind nonempty distinct woven called assembled =>
      exact ⟨_, wovenFrom_of_assemble horderly hkind ⟨nonempty, distinct, woven, called⟩ assembled⟩

theorem WovenFrom.interval (h : c.WovenFrom .tidy p) {id args : String} (ht : .call id args ∈ lex c.source) :
    NumberRange.execute (argumentsOf args) = .ok (p.output id args) := by
  obtain ⟨f, hf, htext⟩ := h.called id args ht
  obtain rfl : f = .range := hf
  exact htext

structure Declares (c : CompiledExpression) : Prop where
  reads : c.declared.map unname = marks c.body.toList
  table : c.table = none :: Marked.names c.declared

theorem WovenFrom.map_unname (h : c.WovenFrom .tidy p) {t : Token} (ht : t ∈ lex c.source)
    (hvariants : ∀ id, t = .reference id → ∀ v ∈ p.variants id, v.Declares) :
    (c.declaredFor t).map unname = p.bareMarking t := by
  cases t with
  | reference id =>
      have hmap : (p.variants id).map (List.map unname ∘ declared) =
          (p.variants id).map fun v => marks v.body.toList :=
        List.map_congr_left fun v hv => (hvariants id rfl v hv).reads
      rw [declaredFor, h.lays.variants, if_pos ht, Option.getD_some, map_unname_block, List.map_map, hmap,
        ← Draft.marks_blockText (h.fits.sound id ht) (h.fits.nonempty id ht)]
      rfl
  | call id args =>
      have houtput := (h.fits.output id args ht).2
      rw [declaredFor, h.interval ht]
      exact map_unname_of_names fun x hx => by
        rw [show (Except.ok (p.output id args) : Except FragmentError String).toOption.getD "" =
          p.output id args from rfl, houtput] at hx
        cases hx
  | namedOpen style name => rfl
  | groupOpen => rfl
  | text | escape | charClass | specialOpen => exact map_unname_of_names (by simp [declaredFor, marked])

theorem WovenFrom.names_declaredFor (h : c.WovenFrom .tidy p) {t : Token} (ht : t ∈ lex c.source)
    (hvariants : ∀ id, t = .reference id → ∀ v ∈ p.variants id, v.Declares) :
    Marked.names (c.declaredFor t) = p.table t := by
  cases t with
  | reference id =>
      have hmap : ((p.variants id).map declared).flatMap (fun ms => none :: Marked.names ms) =
          (p.variants id).flatMap CompiledExpression.table := by
        rw [List.flatMap_map, List.flatMap_def, List.flatMap_def]
        exact congrArg _ (List.map_congr_left fun v hv => (hvariants id rfl v hv).table.symm)
      rw [declaredFor, h.lays.variants, if_pos ht, Option.getD_some, Supply.table]
      by_cases hlen : (p.variants id).length = 1
      · obtain ⟨v, hv⟩ := List.length_eq_one_iff.1 hlen
        have htable := (hvariants id rfl v (by simp [hv])).table
        rw [hv, List.map_cons, List.map_nil, Draft.blockTable, htable]
        exact names_enclosed _
      · rw [block_several (by simpa using hlen), names_enclosed, names_alternation, hmap,
          Draft.blockTable_several hlen]
  | call id args =>
      have houtput := (h.fits.output id args ht).2
      rw [declaredFor, h.interval ht]
      exact houtput.trans (by simp [Supply.table, marked])
  | text | escape | charClass | groupOpen | namedOpen | specialOpen => rfl

theorem WovenFrom.declares (h : c.WovenFrom .tidy p) (hsound : c.Sound)
    (hvariants : ∀ id, .reference id ∈ lex c.source → ∀ v ∈ p.variants id, v.Declares) : c.Declares := by
  have hmarks : c.declared.map unname = marks c.body.toList := by
    rw [declared_eq, h.lays.reads, List.map_flatMap, List.flatMap_def, List.flatMap_def]
    refine congrArg _ (List.map_congr_left fun t ht => h.map_unname ht ?_)
    rintro id rfl
    exact hvariants id ht
  refine ⟨hmarks, ?_⟩
  have hnames : Marked.names c.declared = (lex c.source).flatMap p.table := by
    rw [declared_eq, Marked.names, List.filterMap_flatMap, List.flatMap_def, List.flatMap_def]
    refine congrArg _ (List.map_congr_left fun t ht => h.names_declaredFor ht ?_)
    rintro id rfl
    exact hvariants id ht
  have hlen : c.table.length = (none :: Marked.names c.declared).length := by
    rw [length_table, hsound.groupCount, List.length_cons, ← hmarks, length_names_map_unname, Nat.add_comm]
  refine List.ext_getElem? fun i => ?_
  by_cases hi : i < c.table.length
  · have hget := h.lays.names i
    rw [← hnames, List.getElem?_eq_getElem (hlen ▸ hi)] at hget
    rw [List.getElem?_eq_getElem hi, List.getElem?_eq_getElem (hlen ▸ hi)]
    simpa [table] using hget
  · rw [List.getElem?_eq_none (Nat.le_of_not_lt hi), List.getElem?_eq_none (hlen ▸ Nat.le_of_not_lt hi)]

theorem Woven.declares (h : c.Woven .tidy) : c.Declares := by
  induction h with
  | @intro p flags source c hkind nonempty distinct woven called assembled ih =>
      have hwoven : c.Woven .tidy := .intro hkind nonempty distinct woven called assembled
      have hfrom := wovenFrom_of_assemble Kind.orderly_tidy hkind ⟨nonempty, distinct, woven, called⟩ assembled
      obtain ⟨_, _, -, -, -, rfl⟩ := Compiling.assemble_eq_ok assembled
      exact hfrom.declares (hwoven.sound Kind.orderly_tidy) ih

theorem WovenFrom.length_names (h : c.WovenFrom .tidy p) {ts : List Token} (hts : ∀ t ∈ ts, t ∈ lex c.source) :
    (Marked.names (ts.flatMap c.declaredFor)).length = p.size ts := by
  induction ts with
  | nil => rfl
  | cons t ts ih =>
      obtain ⟨ht, hts⟩ := List.forall_mem_cons.1 hts
      have hnames : Marked.names (c.declaredFor t) = p.table t := by
        refine h.names_declaredFor ht ?_
        rintro id rfl v hv
        exact (h.woven id ht v hv).declares
      rw [List.flatMap_cons, names_append, List.length_append, hnames, ih hts, Supply.size, Supply.size,
        List.flatMap_cons, List.length_append]

end CompiledExpression

end Patchwork
