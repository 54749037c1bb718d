import Patchwork.Proofs.Token.Pieces
import Patchwork.Regex.Modes

namespace Patchwork

open Token

namespace Unicode.Property

/-- What structures a pattern stays in a name when it is made ready for comparison. -/
theorem mem_separatorFree {c : Char} {cs : List Char} (hc : isStructural c = true) (h : c ∈ cs) :
    c ∈ separatorFree cs := by
  have hkept : ∀ c ∈ ['\\', '[', '(', '$'],
      (!(c = ' ' || c = '_' || c = '-') && c.toNat < 128) = true ∧ c.toLower = c := by
    simp only [List.forall_mem_cons, List.not_mem_nil, false_implies, implies_true, and_true]
    decide
  obtain ⟨hfilter, hlower⟩ := hkept c (mem_of_isStructural hc)
  exact List.mem_map.2 ⟨c, List.mem_filter.2 ⟨h, hfilter⟩, hlower⟩

theorem mem_normalize {c : Char} {name : String} (hc : isStructural c = true) (h : c ∈ name.toList) :
    c ∈ (normalize name).toList := by
  have hplain : Ordinary ['i', 's', 'I', 'S', 'c'] := by decide
  have hletter : ∀ d ∈ ['i', 's', 'I', 'S', 'c'], c ≠ d := by
    rintro d hd rfl
    rw [hplain c hd] at hc
    cases hc
  -- What is left of a name after `is` is never a lone `c`, the one case in which it is replaced.
  have hrest : ∀ a b rest, a ∈ ['i', 'I'] → b ∈ ['s', 'S'] → name.toList = a :: b :: rest →
      c ∈ separatorFree rest ∧ separatorFree rest ≠ ['c'] := by
    intro a b rest ha hb heq
    have hca : c ≠ a := hletter a ((by simp : ['i', 'I'] ⊆ ['i', 's', 'I', 'S', 'c']) ha)
    have hcb : c ≠ b := hletter b ((by simp : ['s', 'S'] ⊆ ['i', 's', 'I', 'S', 'c']) hb)
    rw [heq] at h
    have hfree := mem_separatorFree hc (by simpa [hca, hcb] using h)
    refine ⟨hfree, fun hlone => ?_⟩
    rw [hlone] at hfree
    exact hletter 'c' (by decide) (List.mem_singleton.1 hfree)
  unfold normalize
  split
  · next rest heq =>
      obtain ⟨hfree, hne⟩ := hrest 'i' 's' rest (by decide) (by decide) heq
      split
      · next hlone => exact absurd hlone hne
      · rwa [String.toList_ofList]
  · next rest heq =>
      obtain ⟨hfree, hne⟩ := hrest 'I' 's' rest (by decide) (by decide) heq
      split
      · next hlone => exact absurd hlone hne
      · rwa [String.toList_ofList]
  · next rest heq =>
      obtain ⟨hfree, hne⟩ := hrest 'i' 'S' rest (by decide) (by decide) heq
      split
      · next hlone => exact absurd hlone hne
      · rwa [String.toList_ofList]
  · next rest heq =>
      obtain ⟨hfree, hne⟩ := hrest 'I' 'S' rest (by decide) (by decide) heq
      split
      · next hlone => exact absurd hlone hne
      · rwa [String.toList_ofList]
  · rw [String.toList_ofList]
    exact mem_separatorFree hc h

theorem ordinary_of_entry {α : Type} {table : List (List String × α)}
    (htable : table.all fun entry => entry.1.all fun name => name.toList.all (!isStructural ·))
    {name : String} {entry : List String × α}
    (h : (table.find? fun entry => entry.1.contains name) = some entry) : Ordinary name.toList := by
  have hmem := List.mem_of_find?_eq_some h
  have hname : name ∈ entry.1 := by simpa using List.find?_some h
  intro c hc
  have hall := List.all_eq_true.1 (List.all_eq_true.1 (List.all_eq_true.1 htable entry hmem) name hname) c hc
  simpa using hall

theorem ordinary_of_find? {α : Type} {table : List (List String × α)}
    (htable : table.all fun entry => entry.1.all fun name => name.toList.all (!isStructural ·))
    {name : String} {a : α} (h : (table.find? fun entry => entry.1.contains name).map Prod.snd = some a) :
    Ordinary name.toList := by
  obtain ⟨entry, hentry, -⟩ := Option.map_eq_some_iff.1 h
  exact ordinary_of_entry htable hentry

theorem ordinary_of_category? {name : String} {s : CharSet} (h : category? name = some s) :
    Ordinary name.toList := by
  unfold category? at h
  split at h
  · decide
  · decide
  · decide
  · obtain ⟨tables, htables, -⟩ := Option.map_eq_some_iff.1 h
    exact ordinary_of_find? (by decide +kernel) htables

theorem ordinary_of_script {name : String} {entry : List String × RangeSet}
    (h : (Script.table.find? fun entry => entry.1.contains name) = some entry) : Ordinary name.toList :=
  ordinary_of_entry (by decide +kernel) h

theorem ordinary_of_script? {name : String} {s : CharSet} (h : script? name = some s) :
    Ordinary name.toList := by
  obtain ⟨ranges, hranges, -⟩ := Option.map_eq_some_iff.1 h
  obtain ⟨entry, hentry, -⟩ := Option.map_eq_some_iff.1 hranges
  exact ordinary_of_script hentry

theorem ordinary_of_extension? {name : String} {s : CharSet} (h : Script.extension? name = some s) :
    Ordinary name.toList := by
  obtain ⟨entry, hentry, -⟩ := Option.bind_eq_some_iff.1 h
  exact ordinary_of_script hentry

theorem ordinary_of_age? {name : String} {s : CharSet} (h : (Age.find? name).map CharSet.tables = some s) :
    Ordinary name.toList := by
  obtain ⟨tables, htables, -⟩ := Option.map_eq_some_iff.1 h
  obtain ⟨entry, hentry, -⟩ := Option.bind_eq_some_iff.1 htables
  exact ordinary_of_entry (by decide +kernel) hentry

theorem ordinary_of_normalize {name : String} (h : Ordinary (normalize name).toList) :
    Ordinary name.toList := by
  intro c hc
  cases hs : isStructural c with
  | false => rfl
  | true => exact absurd (h c (mem_normalize hs hc)) (by simp [hs])

theorem ordinary_of_named? {name : String} {s : CharSet} (h : named? name = some s) :
    Ordinary name.toList := by
  refine ordinary_of_normalize ?_
  rcases Option.or_eq_some_iff.1 h with hbinary | ⟨-, h⟩
  · exact ordinary_of_find? (by decide +kernel) hbinary
  rcases Option.or_eq_some_iff.1 h with hcategory | ⟨-, hscript⟩
  · exact ordinary_of_category? hcategory
  · exact ordinary_of_script? hscript

theorem ordinary_of_break? {table : List (List String × CharSet)}
    (htable : table ∈ [Break.clusters, Break.words, Break.sentences]) {name : String} {s : CharSet}
    (h : Break.find? table name = some s) : Ordinary name.toList := by
  have hall : ∀ table ∈ [Break.clusters, Break.words, Break.sentences],
      table.all fun entry => entry.1.all fun name => name.toList.all (!isStructural ·) := by decide +kernel
  exact ordinary_of_find? (hall table htable) h

theorem ordinary_of_valued? {name value : String} {s : CharSet} (h : valued? name value = some s) :
    Ordinary name.toList ∧ Ordinary value.toList := by
  have hvalue : ∀ {t}, normalize name = t → Ordinary t.toList → Ordinary (normalize value).toList →
      Ordinary name.toList ∧ Ordinary value.toList := by
    rintro t rfl hname hval
    exact ⟨ordinary_of_normalize hname, ordinary_of_normalize hval⟩
  unfold valued? at h
  dsimp only at h
  split at h
  · next heq => exact hvalue heq (by decide) (ordinary_of_category? h)
  · next heq => exact hvalue heq (by decide) (ordinary_of_category? h)
  · next heq => exact hvalue heq (by decide) (ordinary_of_script? h)
  · next heq => exact hvalue heq (by decide) (ordinary_of_script? h)
  · next heq => exact hvalue heq (by decide) (ordinary_of_extension? h)
  · next heq => exact hvalue heq (by decide) (ordinary_of_extension? h)
  · next heq => exact hvalue heq (by decide) (ordinary_of_age? h)
  · next heq => exact hvalue heq (by decide) (ordinary_of_break? (by simp) h)
  · next heq => exact hvalue heq (by decide) (ordinary_of_break? (by simp) h)
  · next heq => exact hvalue heq (by decide) (ordinary_of_break? (by simp) h)
  · next heq => exact hvalue heq (by decide) (ordinary_of_break? (by simp) h)
  · next heq => exact hvalue heq (by decide) (ordinary_of_break? (by simp) h)
  · next heq => exact hvalue heq (by decide) (ordinary_of_break? (by simp) h)
  · cases h

end Unicode.Property

end Patchwork
