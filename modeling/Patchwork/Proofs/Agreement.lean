import Patchwork.Proofs.Layout
import Patchwork.Proofs.Pattern

/-!
Whether the engine numbers the groups as the tables do. The tables are right just if the engine opens
a group wherever the lexer reads an opener in the body; and so it does, unless verbose mode is switched
on within the pattern or one of the classes ends elsewhere for the engine.
-/

namespace Patchwork

open Token Marked

namespace Token

theorem opener_of_mem_marks {cs : List Char} {m : Marked} {name : Option String} (h : m ∈ marks cs)
    (hname : name? m = some name) : m = opener name := by
  have hplain : ∀ ds, m ∉ plain ds := by
    intro ds hm
    obtain ⟨c, -, rfl⟩ := List.mem_map.1 hm
    cases hname
  obtain ⟨t, -, ht⟩ := List.mem_flatMap.1 h
  cases t with
  | groupOpen | namedOpen style n =>
      obtain rfl := List.mem_singleton.1 ht
      cases hname
      rfl
  | charClass s =>
      simp only [marked, ofClass] at ht
      split at ht
      · cases ht
      · rcases List.mem_cons.1 ht with rfl | ht
        · cases hname
        · exact absurd ht (hplain _)
  | text | escape | specialOpen | reference | call => exact absurd ht (hplain _)

end Token

namespace Marked

variable {ms xs ys xs' ys' : List Marked} {x x' : Option String}

theorem length_eq_of_split (h : xs ++ opener x :: ys = xs' ++ opener x' :: ys')
    (hcount : (names xs).length = (names xs').length) : xs.length = xs'.length := by
  have hlonger : ∀ (as zs : List Marked) (y : Option String),
      (names as).length < (names (as ++ opener y :: zs)).length := by
    intro as zs y
    rw [names_append, names_cons_opener, List.length_append, List.length_cons]
    omega
  rcases List.append_eq_append_iff.1 h with ⟨zs, rfl, hzs⟩ | ⟨zs, rfl, hzs⟩
  · cases zs with
    | nil => simp
    | cons z zs =>
        obtain ⟨rfl, -⟩ := List.cons.inj hzs
        have := hlonger xs zs x
        omega
  · cases zs with
    | nil => simp
    | cons z zs =>
        obtain ⟨rfl, -⟩ := List.cons.inj hzs
        have := hlonger xs' zs x'
        omega

theorem exists_split {k : Nat} (hk : k < (names ms).length) :
    ∃ before m name after, ms = before ++ m :: after ∧ name? m = some name ∧ (names before).length = k := by
  induction ms generalizing k with
  | nil => cases hk
  | cons m ms ih =>
      cases hm : name? m with
      | none =>
          rw [names, List.filterMap_cons_none hm] at hk
          obtain ⟨before, m', name, after, rfl, hname, hcount⟩ := ih hk
          exact ⟨m :: before, m', name, after, rfl, hname, by rwa [names, List.filterMap_cons_none hm]⟩
      | some name =>
          cases k with
          | zero => exact ⟨[], m, name, ms, rfl, hm, rfl⟩
          | succ k =>
              rw [names, List.filterMap_cons_some hm] at hk
              obtain ⟨before, m', name', after, rfl, hname, hcount⟩ := ih (Nat.lt_of_succ_lt_succ hk)
              refine ⟨m :: before, m', name', after, rfl, hname, ?_⟩
              rw [names, List.filterMap_cons_some hm, List.length_cons]
              exact congrArg _ hcount

end Marked

namespace CompiledExpression

variable {c : CompiledExpression}

def Opens (c : CompiledExpression) (i place : Nat) : Prop :=
  (i, c.pattern.toList.drop (c.directive.toList.length + place)) ∈ Regex.openings c.pattern

instance (c : CompiledExpression) (i place : Nat) : Decidable (c.Opens i place) :=
  inferInstanceAs (Decidable (_ ∈ Regex.openings c.pattern))

/-- The engine opens a group wherever the lexer reads an opener in the body, and numbers it so. -/
def OpensAsRead (c : CompiledExpression) : Prop :=
  ∀ before name after, marks c.body.toList = before ++ opener name :: after →
    c.Opens (1 + (Marked.names before).length) before.length

/-- The tables are right: each group that they count is the one that the engine opens at the opener
declared for it, under the name that is declared there, and each anchor is the group that the engine
opens where the block for its reference begins. -/
structure Numbered (c : CompiledExpression) : Prop where
  groups : ∀ i, 0 < i → i < c.groupCount → ∃ before name after,
    c.declared = before ++ opener name :: after ∧ i = 1 + (Marked.names before).length ∧
      c.names.get? i = name ∧ c.Opens i before.length
  anchors : ∀ e ∈ c.anchors.toList, ∃ before after,
    lex c.source = before ++ .reference e.2.id :: after ∧
      e.2.occurrence = before.count (.reference e.2.id) ∧ e.1 < c.groupCount ∧
        c.Opens e.1 (before.flatMap c.declaredFor).length

theorem Declares.split (h : c.Declares) {before after : List Marked} {m : Marked} {name : Option String}
    (hsplit : c.declared = before ++ m :: after) (hm : name? m = some name) :
    m = opener name ∧ marks c.body.toList = before.map unname ++ opener none :: after.map unname := by
  have hmarks := h.reads
  rw [hsplit, List.map_append, List.map_cons] at hmarks
  obtain ⟨d, mark⟩ := m
  have hmark : mark = some (.opener name) := by
    cases mark with
    | none => cases hm
    | some mark => cases mark <;> cases hm; rfl
  subst hmark
  have hopener : unname (d, some (.opener name)) = opener none := by
    have hmem : unname (d, some (.opener name)) ∈ marks c.body.toList := by
      rw [← hmarks]
      exact List.mem_append_right _ List.mem_cons_self
    exact opener_of_mem_marks hmem rfl
  have hd : d = '(' := congrArg Prod.fst hopener
  exact ⟨by rw [hd]; rfl, by rw [← hmarks, hopener]⟩

theorem Declares.groupCount (h : c.Declares) : c.groupCount = 1 + (Marked.names c.declared).length := by
  rw [← c.length_table, h.table, List.length_cons, Nat.add_comm]

theorem Numbered.opensAsRead (h : c.Numbered) (hdeclares : c.Declares) : c.OpensAsRead := by
  intro before name after hmarks
  have hlen := length_names_map_unname c.declared
  rw [hdeclares.reads, hmarks, names_append, names_cons_opener, List.length_append, List.length_cons] at hlen
  have hlt : 1 + (Marked.names before).length < c.groupCount := by
    rw [hdeclares.groupCount]
    omega
  obtain ⟨before', name', after', hsplit, hindex, -, hopens⟩ := h.groups _ (by omega) hlt
  obtain ⟨-, hmarks'⟩ := hdeclares.split hsplit rfl
  have hplace := length_eq_of_split (hmarks.symm.trans hmarks') (by
    rw [length_names_map_unname]
    omega)
  rw [List.length_map] at hplace
  rwa [hplace]

theorem OpensAsRead.numbered (hopens : c.OpensAsRead) (h : c.Woven .tidy) : c.Numbered := by
  have hdeclares := h.declares
  have hopens' : ∀ {before after : List Marked} {name : Option String},
      c.declared = before ++ opener name :: after →
        c.Opens (1 + (Marked.names before).length) before.length := by
    intro before after name hsplit
    have hat := hopens _ _ _ (hdeclares.split hsplit rfl).2
    rwa [length_names_map_unname, List.length_map] at hat
  refine ⟨fun i hi hlt => ?_, fun e he => ?_⟩
  · rw [hdeclares.groupCount] at hlt
    have hindex : i - 1 < (Marked.names c.declared).length := by omega
    obtain ⟨before, m, name, after, hsplit, hm, hcount⟩ := exists_split hindex
    obtain ⟨rfl, -⟩ := hdeclares.split hsplit hm
    have hindex : i = 1 + (Marked.names before).length := by omega
    refine ⟨before, name, after, hsplit, hindex, ?_, hindex ▸ hopens' hsplit⟩
    rw [(h.sound Kind.orderly_tidy).table i, hdeclares.table, hsplit, names_append, names_cons_opener, hindex,
      Nat.add_comm, List.getElem?_cons_succ, List.getElem?_append_right (Nat.le_refl _), Nat.sub_self]
    rfl
  · obtain ⟨p, hfrom⟩ := h.exists_from Kind.orderly_tidy
    have hlays := hfrom.lays
    rw [hlays.anchors] at he
    obtain ⟨before, after, hsplit, hindex, hcount⟩ := Supply.mem_anchorsFrom he
    refine ⟨before, after, hsplit, hcount, ?_, ?_⟩
    · rw [hlays.groupCount]
      exact hfrom.fits.anchorsFrom_lt [] e he
    · obtain ⟨ms, hms⟩ : ∃ ms, c.declaredFor (.reference e.2.id) = opener none :: ms := exists_block_eq _
      have hdeclared : c.declared =
          before.flatMap c.declaredFor ++ opener none :: (ms ++ after.flatMap c.declaredFor) := by
        rw [declared_eq, hsplit, List.flatMap_append, List.flatMap_cons, hms, List.cons_append]
      have hbefore : ∀ t ∈ before, t ∈ lex c.source := fun t ht => by
        rw [hsplit]
        exact List.mem_append_left _ ht
      have hnames := hfrom.length_names hbefore
      have hat := hopens' hdeclared
      rwa [hnames, ← List.nil_append before, ← hindex] at hat

theorem opensAsRead_of_terse (h : c.Woven .tidy)
    (hterse : (Regex.Tree.parse? c.pattern.toList).all Regex.Tree.isTerse)
    (halike : ∀ s ∈ classes (marks c.body.toList), Regex.ClosesAlike s) : c.OpensAsRead := by
  intro before name after hmarks
  have hpatterns := h.patterns
  have hbare : Regex.Builder.Bare c.body.toList := ⟨halike, (h.sound Kind.orderly_tidy).unnamed⟩
  have hbare' := hpatterns.bare_pattern hbare
  have hpattern : marks c.pattern.toList = plain c.directive.toList ++ before ++ opener name :: after := by
    rw [hpatterns.marks_pattern, hmarks, List.append_assoc]
  have hmem := mem_openings 1 (plain c.directive.toList ++ before) name after
  have hchars := chars_marks hbare'.unnamed
  rw [hpattern, Marked.chars_append, Marked.chars_append, Marked.chars_plain] at hchars
  rw [Opens, Regex.openings_of_compile? hpatterns.regex hterse hbare', hpattern, ← hchars]
  rw [names_append, names_plain, List.nil_append] at hmem
  have hdrop : (c.directive.toList ++ Marked.chars before ++ Marked.chars (opener name :: after)).drop
      (c.directive.toList.length + before.length) = Marked.chars (opener name :: after) := by
    have hlen : c.directive.toList.length + before.length =
        (c.directive.toList ++ Marked.chars before).length := by
      simp [Marked.chars]
    rw [hlen, List.drop_left]
  rw [hdrop]
  exact hmem

end CompiledExpression

namespace Registry

variable {r : Registry} {s t : Store} {source : String} {c : CompiledExpression}

/-- The tables of a tidy source are right just if the engine opens the groups where the lexer reads
their openers; and they are right if verbose mode is never switched on and every class that the lexer
reads in the body is closed there for the engine too. -/
theorem numbered_of_compile {o : Options} (h : Reached .tidy o r s) (htidy : Tidy source)
    (hc : (r.compile source).run s = (.ok c, t)) :
    (c.Numbered ↔ c.OpensAsRead) ∧
      ((Regex.Tree.parse? c.pattern.toList).all Regex.Tree.isTerse →
        (∀ s ∈ classes (marks c.body.toList), Regex.ClosesAlike s) → c.Numbered) := by
  have hwoven := h.woven_of_compile htidy hc
  refine ⟨⟨fun hn => hn.opensAsRead hwoven.declares, fun ho => ho.numbered hwoven⟩, ?_⟩
  intro hterse halike
  exact (CompiledExpression.opensAsRead_of_terse hwoven hterse halike).numbered hwoven

theorem numbered_of_compile_class :
    let w := (Definition.expression "a" "(?<m>x)").apply (withOptions ⟨.standard, 2⟩, .empty)
    let v := (Definition.expression "a" "y").apply w
    let source := "(?<n>[(z]${a})"
    Reached .tidy ⟨.standard, 2⟩ v.1 v.2 ∧ Tidy source ∧ ∃ c t, (v.1.compile source).run v.2 = (.ok c, t) ∧
      (Regex.Tree.parse? c.pattern.toList).all Regex.Tree.isTerse ∧
        (∀ s ∈ classes (marks c.body.toList), Regex.ClosesAlike s) ∧ c.Numbered := by
  intro w v source
  have hdefinitions : ∀ d ∈ [Definition.expression "a" "(?<m>x)", .expression "a" "y"], d.Permitted .tidy :=
    List.forall_mem_cons.2 ⟨show Tidy "(?<m>x)" by decide +kernel,
      List.forall_mem_singleton.2 (show Tidy "y" by decide +kernel)⟩
  have hreached : Reached .tidy ⟨.standard, 2⟩ v.1 v.2 := reached_of_definitions _ hdefinitions
  have htidy : Tidy source := by decide +kernel
  have hok : ((v.1.compile source).run v.2).1.toOption.any fun c : CompiledExpression =>
      decide ((Regex.Tree.parse? c.pattern.toList).all Regex.Tree.isTerse ∧
        ∀ s ∈ classes (marks c.body.toList), Regex.ClosesAlike s) := by decide +kernel
  obtain ⟨c, t, hrun, hc⟩ := Compiling.exists_run_of_any hok
  obtain ⟨hterse, halike⟩ := of_decide_eq_true hc
  obtain ⟨-, hnumbered⟩ := numbered_of_compile hreached htidy hrun
  exact ⟨hreached, htidy, c, t, hrun, hterse, halike, hnumbered hterse halike⟩

/-- A bracket at the end of a range opens a class for the lexer alone, and one at the start of a class
for the engine alone: the one hides a group and the other a name, and the totals agree. -/
theorem not_numbered_of_range :
    let r := withOptions ⟨.none, 2⟩
    let source := "[A-[](x)][[]](?<n>]]"
    Reached .tidy ⟨.none, 2⟩ r .empty ∧ Tidy source ∧
      ∃ c t, (r.compile source).run .empty = (.ok c, t) ∧ ¬c.Numbered := by
  intro r source
  have hreached : Reached .tidy ⟨.none, 2⟩ r .empty := .start (by simp [Store.empty])
  have htidy : Tidy source := by decide +kernel
  have hok : ((r.compile source).run .empty).1.toOption.any fun c : CompiledExpression =>
      decide (marks c.body.toList =
          (marks c.body.toList).take 13 ++ opener none :: (marks c.body.toList).drop 14 ∧
        ¬c.Opens (1 + (names ((marks c.body.toList).take 13)).length) 13 ∧
          ((marks c.body.toList).take 13).length = 13) := by decide +kernel
  obtain ⟨c, t, hrun, hc⟩ := Compiling.exists_run_of_any hok
  obtain ⟨hsplit, hopens, hlen⟩ := of_decide_eq_true hc
  have hwoven := hreached.woven_of_compile htidy hrun
  refine ⟨hreached, htidy, c, t, hrun, fun hnumbered => ?_⟩
  have hat := hnumbered.opensAsRead hwoven.declares _ _ _ hsplit
  rw [hlen] at hat
  exact hopens hat

end Registry

end Patchwork
