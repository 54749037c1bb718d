import Patchwork.Proofs.Regex.Readers

namespace Patchwork.Regex

open Token

namespace Item

section Flags

variable {negated : Bool} {changes result : List FlagChange} {finish c : Char} {cs rest : List Char}

theorem readFlags_finish (hc : c = ':' ∨ c = ')') (negated : Bool) (changes : List FlagChange)
    (cs : List Char) : readFlags negated changes (c :: cs) = some (changes.reverse, c, cs) := by
  rcases hc with rfl | rfl <;> rfl

theorem readFlags_hyphen (negated : Bool) (changes : List FlagChange) (c : Char) (cs : List Char) :
    readFlags negated changes ('-' :: c :: cs) =
      if negated || c = ':' || c = ')' then none else readFlags true changes (c :: cs) := rfl

theorem readFlags_letter (hc : ¬(c = ':' ∨ c = ')')) (hhyphen : c ≠ '-') (negated : Bool)
    (changes : List FlagChange) (cs : List Char) :
    readFlags negated changes (c :: cs) = (Flag.ofLetter? c).bind fun flag =>
      if changes.any (·.flag = flag) then none else readFlags negated (⟨flag, !negated⟩ :: changes) cs := by
  rw [not_or] at hc
  rw [readFlags.eq_4 _ _ _ _ hc.1 hc.2 (fun d ds hd _ => hhyphen hd)]
  rfl

theorem readFlags_alone (negated : Bool) (changes : List FlagChange) :
    readFlags negated changes ['-'] = none := by
  simp [readFlags, Flag.ofLetter?]

theorem isStructural_of_ofLetter? {flag : Flag} (h : Flag.ofLetter? c = some flag) :
    isStructural c = false :=
  isStructural_of_test (p := fun c => (Flag.ofLetter? c).isSome) (by simp [h]) (by decide)

theorem leaves_readFlags (h : readFlags negated changes cs = some (result, finish, rest)) :
    Leaves cs rest := by
  induction cs generalizing negated changes with
  | nil => cases h
  | cons c cs ih =>
      by_cases hend : c = ':' ∨ c = ')'
      · rw [readFlags_finish hend] at h
        cases h
        exact (Leaves.refl _).cons (by rcases hend with rfl | rfl <;> decide)
      by_cases hhyphen : c = '-'
      · subst hhyphen
        cases cs with
        | nil =>
            rw [readFlags_alone] at h
            cases h
        | cons d ds =>
            rw [readFlags_hyphen] at h
            split at h
            · cases h
            · exact (ih h).cons (by decide)
      · rw [readFlags_letter hend hhyphen] at h
        obtain ⟨flag, hflag, h⟩ := Option.bind_eq_some_iff.1 h
        split at h
        · cases h
        · exact (ih h).cons (isStructural_of_ofLetter? hflag)

end Flags

theorem readName_eq_some {name : String} {cs rest : List Char} (h : readName cs = some (name, rest)) :
    ∃ ns, name = String.ofList ns ∧ cs = ns ++ '>' :: rest ∧ '>' ∉ ns ∧ GroupName.isName ns = true := by
  unfold readName at h
  split at h
  · next after hdrop =>
      dsimp only at h
      split at h
      · next hname =>
          cases h
          have hcs := List.takeWhile_append_dropWhile (p := fun c => decide (c ≠ '>')) (l := cs)
          rw [hdrop] at hcs
          refine ⟨_, rfl, hcs.symm, fun hmem => ?_, hname⟩
          have hall := List.all_eq_true.1 (List.all_takeWhile (p := fun c => decide (c ≠ '>')) (l := cs)) _ hmem
          simp at hall
      · cases h
  · cases h

theorem readName_of_isName {ns : List Char} (hclose : '>' ∉ ns) (hname : GroupName.isName ns = true)
    (rest : List Char) : readName (ns ++ '>' :: rest) = some (String.ofList ns, rest) := by
  have hall : ∀ c ∈ ns, (decide (c ≠ '>')) = true := by
    intro c hc
    rw [decide_eq_true_eq]
    rintro rfl
    exact hclose hc
  have htake : (ns ++ '>' :: rest).takeWhile (fun c => decide (c ≠ '>')) = ns := by
    rw [List.takeWhile_append_of_pos hall]
    simp
  have hdrop : (ns ++ '>' :: rest).dropWhile (fun c => decide (c ≠ '>')) = '>' :: rest := by
    rw [List.dropWhile_append_of_pos hall]
    simp
  simp only [readName, htake, hdrop, hname, if_true]

theorem readName?_of_readName (style : NameStyle) {name : String} {cs rest : List Char}
    (h : readName cs = some (name, rest)) :
    Token.readName? style cs = some (.namedOpen style name, rest) := by
  obtain ⟨ns, rfl, rfl, -, hname⟩ := readName_eq_some h
  cases ns with
  | nil => cases hname
  | cons c ns =>
      simp only [GroupName.isName, Bool.and_eq_true, List.all_eq_true] at hname
      have hclose : GroupName.isPart '>' = false := by decide
      simp [Token.readName?, splitName, splitWord, hname.1, List.takeWhile_append_of_pos hname.2,
        List.dropWhile_append_of_pos hname.2, hclose]

theorem readOpening_blanks (verbose : Bool) (cs : List Char) :
    readOpening verbose cs = readOpening false (afterBlanks verbose cs) := rfl

theorem readOpening_plain {cs : List Char} (h : cs.head? ≠ some '?') :
    readOpening false cs = some (.opening (.capture none), cs) := by
  cases cs with
  | nil => rfl
  | cons c cs =>
      have hc : c ≠ '?' := by simpa using h
      simp [readOpening, hc]

def readScope (cs : List Char) : Option (Item × List Char) :=
  (readFlags false [] cs).bind fun p =>
    if p.2.1 = ':' then some (.opening (.scoped p.1), p.2.2)
    else if p.1.isEmpty then none
    else some (.directive p.1, p.2.2)

theorem readName_none {c : Char} (hc : GroupName.isStart c = false ∧ c ≠ '>') (cs : List Char) :
    readName (c :: cs) = none := by
  cases h : readName (c :: cs) with
  | none => rfl
  | some p =>
      obtain ⟨ns, -, hcs, -, hname⟩ := readName_eq_some h
      cases ns with
      | nil => exact absurd (List.cons.inj hcs).1 hc.2
      | cons d ns =>
          obtain ⟨rfl, -⟩ := List.cons.inj hcs
          simp [GroupName.isName, hc.1] at hname

theorem readOpening_name (cs : List Char) :
    readOpening false ('?' :: '<' :: cs) =
      (readName cs).map fun p => (.opening (.capture (some p.1)), p.2) := by
  have hstart : GroupName.isStart '=' = false ∧ GroupName.isStart '!' = false := by decide
  cases cs with
  | nil => rfl
  | cons c cs =>
      by_cases hequals : c = '='
      · subst hequals
        rw [readName_none ⟨hstart.1, by decide⟩]
        rfl
      by_cases hbang : c = '!'
      · subst hbang
        rw [readName_none ⟨hstart.2, by decide⟩]
        rfl
      cases hname : readName (c :: cs) <;> simp [readOpening, hequals, hbang, hname]

theorem readOpening_withP (cs : List Char) :
    readOpening false ('?' :: 'P' :: '<' :: cs) =
      (readName cs).map fun p => (.opening (.capture (some p.1)), p.2) := by
  cases hname : readName cs <;> simp [readOpening, hname]

theorem readOpening_scope {cs : List Char} (hplain : cs.head? ≠ some '<') (hwithP : ¬['P', '<'] <+: cs) :
    readOpening false ('?' :: cs) = readScope cs := by
  have hread : cs.head? ≠ some '=' → cs.head? ≠ some '!' → readOpening false ('?' :: cs) = readScope cs := by
    intro hequals hbang
    unfold readOpening
    simp only [afterBlanks_false]
    split
    · next heq => simp at heq; simp [heq] at hequals
    · next heq => simp at heq; simp [heq] at hbang
    · next heq => simp at heq; simp [heq] at hplain
    · next heq => simp at heq; simp [heq] at hplain
    · next heq => simp at heq; simp [heq] at hwithP
    · next heq => simp at heq; simp [heq] at hplain
    · next heq =>
        obtain ⟨-, rfl⟩ := List.cons.inj heq
        rfl
    · next hno => exact (hno cs rfl).elim
  cases cs with
  | nil => rfl
  | cons c cs =>
      by_cases hequals : c = '='
      · subst hequals
        rfl
      by_cases hbang : c = '!'
      · subst hbang
        rfl
      exact hread (by simpa using hequals) (by simpa using hbang)

def lead : NameStyle → List Char
  | .plain => ['?', '<']
  | .withP => ['?', 'P', '<']

theorem readOpening_lead (style : NameStyle) (cs : List Char) :
    readOpening false (lead style ++ cs) =
      (readName cs).map fun p => (.opening (.capture (some p.1)), p.2) := by
  cases style with
  | plain => exact readOpening_name cs
  | withP => exact readOpening_withP cs

theorem opening_cases (cs : List Char) :
    cs.head? ≠ some '?' ∨ (∃ style after, cs = lead style ++ after) ∨
      ∃ after, cs = '?' :: after ∧ after.head? ≠ some '<' ∧ ¬['P', '<'] <+: after := by
  by_cases hquestion : cs.head? = some '?'
  · obtain ⟨after, rfl⟩ : ∃ after, cs = '?' :: after := by
      cases cs with
      | nil => cases hquestion
      | cons c cs => exact ⟨cs, by rw [Option.some.inj hquestion]⟩
    by_cases hplain : after.head? = some '<'
    · obtain ⟨after, rfl⟩ : ∃ ds, after = '<' :: ds := by
        cases after with
        | nil => cases hplain
        | cons c cs => exact ⟨cs, by rw [Option.some.inj hplain]⟩
      exact .inr (.inl ⟨.plain, after, rfl⟩)
    · by_cases hwithP : ['P', '<'] <+: after
      · obtain ⟨after, rfl⟩ := hwithP
        exact .inr (.inl ⟨.withP, after, rfl⟩)
      · exact .inr (.inr ⟨after, rfl, hplain, hwithP⟩)
  · exact .inl hquestion

theorem leaves_readScope {item : Item} {cs rest : List Char} (h : readScope cs = some (item, rest)) :
    Leaves cs rest := by
  obtain ⟨⟨changes, finish, after⟩, hflags, h⟩ := Option.bind_eq_some_iff.1 h
  dsimp only at h
  split at h
  · cases h
    exact leaves_readFlags hflags
  · split at h <;> cases h
    exact leaves_readFlags hflags

theorem readScope_ne_capture {item : Item} {cs rest : List Char}
    (h : readScope cs = some (item, rest)) (name : Option String) : item ≠ .opening (.capture name) := by
  obtain ⟨⟨changes, finish, after⟩, -, h⟩ := Option.bind_eq_some_iff.1 h
  dsimp only at h
  split at h
  · cases h
    simp
  · split at h <;> cases h
    simp

/-- The lexer marks an opener where the engine opens a capture group, and nowhere else. -/
theorem marks_opening {item : Item} {cs rest : List Char}
    (h : readOpening false cs = some (item, rest)) :
    (∃ name, item = .opening (.capture name) ∧ marks ('(' :: cs) = Marked.opener name :: marks rest ∧
        (name = none → rest = cs)) ∨
      (∀ name, item ≠ .opening (.capture name)) ∧
        ∃ p, '(' :: cs = p ++ rest ∧ marks ('(' :: cs) = Marked.plain p ++ marks rest := by
  rcases opening_cases cs with hplain | ⟨style, after, rfl⟩ | ⟨after, rfl, hplain, hwithP⟩
  · rw [readOpening_plain hplain] at h
    cases h
    exact .inl ⟨none, rfl, marks_open hplain, fun _ => rfl⟩
  · rw [readOpening_lead] at h
    obtain ⟨⟨name, rest'⟩, hname, heq⟩ := Option.map_eq_some_iff.1 h
    cases heq
    have hread : Token.read '(' (lead style ++ after) = (.namedOpen style name, rest') := by
      have hlexer := readName?_of_readName style hname
      cases style <;> simp [Token.read, Token.readGroup, lead, hlexer]
    refine .inl ⟨some name, rfl, ?_, fun h => by cases h⟩
    rw [marks_of_read hread]
    rfl
  · rw [readOpening_scope hplain hwithP] at h
    obtain ⟨p, rfl, hord⟩ := leaves_readScope h
    refine .inr ⟨readScope_ne_capture h, '(' :: '?' :: p, rfl, ?_⟩
    have hgroup : Token.readGroup ('?' :: (p ++ rest)) = (.specialOpen, p ++ rest) :=
      Token.readGroup.eq_3 _ (fun ds hds => hplain (by rw [hds]; rfl))
        fun ds hds => hwithP ⟨ds, by rw [hds]; rfl⟩
    have hread : Token.read '(' ('?' :: (p ++ rest)) = (.specialOpen, p ++ rest) := hgroup
    rw [marks_of_read hread, marks_text hord]
    rfl

end Item

end Patchwork.Regex
