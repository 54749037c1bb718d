import Patchwork.Proofs.Agreement
import Patchwork.Proofs.SubMatch

namespace Patchwork

open Token Marked

namespace Registry

open CompiledExpression Regex Regex.Builder

variable {r : Registry} {s t : Store} {source : String} {c : CompiledExpression}

/-- Where the sources are tidy, verbose mode is never switched on and the engine closes every class where
the lexer does, the group of every anchor holds what the engine makes of the variants by themselves, and an
operator that follows the block applies to all of it. -/
theorem enclosed_of_compile {o : Options} (h : Reached .tidy o r s) (htidy : Tidy source)
    (hc : (r.compile source).run s = (.ok c, t))
    (hterse : (Tree.parse? c.pattern.toList).all Tree.isTerse)
    (halike : ∀ s ∈ classes (marks c.body.toList), ClosesAlike s) :
    ∃ tree, Tree.parse? c.pattern.toList = some tree ∧
      ∀ id k a, c.anchors.find? id k = some a → ∃ vs content front back, c.variants? id = some vs ∧
        blockTree? a vs = some content ∧ tree.enclosed a = [content] ∧
        c.body.toList = front ++ (Draft.blockText vs).toList ++ back ∧ c.Opens a front.length ∧
        ∀ min max greedy rest, Item.read false back = some (.operator min max greedy, rest) →
          .repeat min max greedy (.group (.capture a none) content) ∈ tree.parts := by
  have hwoven := h.woven_of_compile htidy hc
  have hsound := hwoven.sound Kind.orderly_tidy
  obtain ⟨b, b', form, after, -, hcaptures, habove, hreads, houter, hparse, -⟩ :=
    hwoven.patterns.reads_body hterse
  have hnodup := (hreads.distinct (habove.distinct hcaptures)).nodup_finish
  refine ⟨_, hparse, fun id k a ha => ?_⟩
  obtain ⟨vs, hvs⟩ := hwoven.exists_variants? Kind.orderly_tidy ha
  obtain ⟨⟨front, back, hmarks, rfl⟩, hne⟩ := hwoven.blockAt Kind.orderly_tidy ha hvs
  have hvariants := hwoven.variants hvs
  have hpatterns : ∀ v ∈ vs, v.Sound ∧ v.IsPattern := fun v hv =>
    ⟨(hvariants v hv).sound Kind.orderly_tidy, (hvariants v hv).patterns.isPattern⟩
  obtain ⟨b₁, -, hfrom, hbare, hbody, hcount⟩ :=
    hreads.split_block (fun v hv => (hpatterns v hv).1) hne ⟨halike, hsound.unnamed⟩ hmarks
  obtain ⟨b₂, content, hcontent, hbehind, hlevel⟩ := hfrom.block hpatterns hne hbare
  have hnumber : b₁.captures + 1 = 1 + (Marked.names front).length := by omega
  rw [hnumber] at hcontent hlevel
  have henclosed := Tree.enclosed_eq hnodup (hbehind.mem_parts_last houter hlevel)
  have hplace : c.Opens (1 + (Marked.names front).length) (chars front).length := by
    obtain ⟨ms, hms⟩ := exists_block_eq (vs.map fun v => marks v.body.toList)
    have hopens := opensAsRead_of_terse hwoven hterse halike front none (ms ++ back) (by rw [hmarks, hms]; simp)
    rwa [Marked.chars, List.length_map]
  refine ⟨vs, content, chars front, chars back, hvs, hcontent, henclosed, ?_, hplace, ?_⟩
  · rw [hbody, List.append_assoc]
  · exact fun min max greedy rest hread => hbehind.mem_parts_repeat houter hlevel hread

/-- The directive and the bar of the first variant stay within its group, and the repetition is one of the
whole block. -/
theorem enclosed_of_compile_repeat :
    let w := (Definition.expression "a" "(?i)x|y").apply (withOptions ⟨.standard, 2⟩, .empty)
    let v := (Definition.expression "a" "z").apply w
    let source := "(w)${a}+"
    Reached .tidy ⟨.standard, 2⟩ v.1 v.2 ∧ Tidy source ∧
      ∃ c t tree vs content, (v.1.compile source).run v.2 = (.ok c, t) ∧
        (Tree.parse? c.pattern.toList).all Tree.isTerse ∧
        (∀ s ∈ classes (marks c.body.toList), ClosesAlike s) ∧ c.anchors.find? "a" 0 = some 2 ∧
        Tree.parse? c.pattern.toList = some tree ∧ c.variants? "a" = some vs ∧ vs.length = 2 ∧
        blockTree? 2 vs = some content ∧ tree.enclosed 2 = [content] ∧
        .repeat 1 none true (.group (.capture 2 none) content) ∈ tree.parts := by
  intro w v source
  have hdefinitions : ∀ d ∈ [Definition.expression "a" "(?i)x|y", .expression "a" "z"], d.Permitted .tidy :=
    List.forall_mem_cons.2 ⟨show Tidy "(?i)x|y" by decide +kernel,
      List.forall_mem_singleton.2 (show Tidy "z" by decide +kernel)⟩
  have hreached : Reached .tidy ⟨.standard, 2⟩ v.1 v.2 := reached_of_definitions _ hdefinitions
  have htidy : Tidy source := by decide +kernel
  have hok : ((v.1.compile source).run v.2).1.toOption.any fun c : CompiledExpression =>
      decide ((Tree.parse? c.pattern.toList).all Tree.isTerse ∧
        (∀ s ∈ classes (marks c.body.toList), ClosesAlike s) ∧ c.anchors.find? "a" 0 = some 2 ∧
        ∀ vs ∈ c.variants? "a", vs.length = 2 ∧ ∀ n ≤ c.body.toList.length, c.Opens 2 n →
          c.body.toList.drop (n + (Draft.blockText vs).toList.length) = ['+']) := by decide +kernel
  obtain ⟨c, t, hrun, hc⟩ := Compiling.exists_run_of_any hok
  obtain ⟨hterse, halike, hanchor, hplace⟩ := of_decide_eq_true hc
  obtain ⟨tree, hparse, hblocks⟩ := enclosed_of_compile hreached htidy hrun hterse halike
  obtain ⟨vs, content, front, back, hvs, hcontent, henclosed, hbody, hopens, hoperator⟩ :=
    hblocks "a" 0 2 hanchor
  obtain ⟨hlen, hnext⟩ := hplace vs hvs
  have hle : front.length ≤ c.body.toList.length := by
    rw [hbody, List.length_append, List.length_append]
    omega
  have hback : back = ['+'] := by
    rw [← hnext front.length hle hopens, hbody, ← List.length_append, List.drop_left]
  refine ⟨hreached, htidy, c, t, tree, vs, content, hrun, hterse, halike, hanchor, hparse, hvs, hlen, hcontent,
    henclosed, hoperator 1 none true [] ?_⟩
  rw [hback]
  rfl

end Registry

end Patchwork
