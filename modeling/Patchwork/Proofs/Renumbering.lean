import Patchwork.Proofs.Numbering
import Patchwork.Proofs.Token.Firm

/-!
Renumbering what has been renumbered. A body from which the names are gone is read anew wherever it is
spliced in. It is then read as it was before, without the names, unless an opener that gives a name stands
before a question mark: what is left of that opener and the question mark are read as one.
-/

namespace Patchwork

namespace Token

open Marked

def isNamed : Token → Bool
  | namedOpen .. => true
  | _ => false

def merges : List Token → Bool
  | [] => false
  | t :: ts => t.isNamed && (renders ts).head? = some '?' || merges ts

def bare (cs : List Char) : List Char := Marked.chars (marks cs)

/-- The same text, but that parentheses may have lost what stood between them and the next. -/
inductive Stripped : List Char → List Char → Prop where
  | nil : Stripped [] []
  | cons (c : Char) {cs ds : List Char} (h : Stripped cs ds) : Stripped (c :: cs) (c :: ds)
  | opener {name cs ds : List Char} (hname : ∀ c ∈ name, IsNoParen c) (h : Stripped cs ds) :
      Stripped ('(' :: (name ++ cs)) ('(' :: ds)

namespace Stripped

variable {cs ds : List Char} {p start part : Char → Bool}

theorem append_left (h : Stripped cs ds) (xs : List Char) : Stripped (xs ++ cs) (xs ++ ds) := by
  induction xs with
  | nil => exact h
  | cons x xs ih => exact .cons x ih

theorem head? (h : Stripped cs ds) : ds.head? = cs.head? := by
  cases h <;> rfl

theorem takeWhile (h : Stripped cs ds) (hp : p '(' = false) : ds.takeWhile p = cs.takeWhile p := by
  induction h with
  | nil => rfl
  | cons c _ ih => rw [List.takeWhile_cons, List.takeWhile_cons, ih]
  | opener => simp [hp]

theorem dropWhile (h : Stripped cs ds) (hp : p '(' = true → ∀ c, IsNoParen c → p c = true) :
    Stripped (cs.dropWhile p) (ds.dropWhile p) := by
  induction h with
  | nil => exact .nil
  | cons c h ih =>
      rw [List.dropWhile_cons, List.dropWhile_cons]
      split
      · exact ih
      · exact .cons c h
  | opener hname h ih =>
      rw [List.dropWhile_cons, List.dropWhile_cons]
      split
      · next hopen =>
          rwa [List.dropWhile_append_of_pos fun c hc => hp hopen c (hname c hc)]
      · exact .opener hname h

/-- A word that may have no parenthesis in it is split off both texts or neither. -/
theorem splitWord (h : Stripped cs ds) (hstart : start '(' = false) (hpart : part '(' = false) :
    Token.splitWord start part cs = none ∧ Token.splitWord start part ds = none ∨
      ∃ word rest rest', Token.splitWord start part cs = some (word, rest) ∧
        Token.splitWord start part ds = some (word, rest') ∧ Stripped rest rest' := by
  have hdrop : part '(' = true → ∀ c, IsNoParen c → part c = true := by simp [hpart]
  cases h with
  | nil => exact .inl ⟨rfl, rfl⟩
  | opener => exact .inl ⟨by simp [Token.splitWord, hstart], by simp [Token.splitWord, hstart]⟩
  | cons c h =>
      simp only [Token.splitWord]
      split
      · exact .inr ⟨_, _, _, rfl, by rw [h.takeWhile hpart], h.dropWhile hdrop⟩
      · exact .inl ⟨rfl, rfl⟩

/-- A beginning without parentheses is one of the text with the names too. -/
theorem exists_append {xs q : List Char} (h : Stripped cs (xs ++ q)) (hxs : ∀ c ∈ xs, IsNoParen c) :
    ∃ q', cs = xs ++ q' := by
  induction xs generalizing cs with
  | nil => exact ⟨cs, rfl⟩
  | cons x xs ih =>
      obtain ⟨hx, hxs⟩ := List.forall_mem_cons.1 hxs
      cases h with
      | cons _ h =>
          obtain ⟨q', rfl⟩ := ih h hxs
          exact ⟨q', rfl⟩
      | opener => exact absurd rfl hx.1

/-- Up to the parenthesis that would close the arguments of a call, and behind it, both are alike. -/
theorem closes_iff (h : Stripped cs ds) :
    (∃ rest, ds.dropWhile (· ≠ ')') = ')' :: '}' :: rest) ↔
      ∃ rest, cs.dropWhile (· ≠ ')') = ')' :: '}' :: rest := by
  have hdrop := h.dropWhile (p := (· ≠ ')')) fun _ c hc => by simpa using hc.2
  revert hdrop
  generalize cs.dropWhile (· ≠ ')') = xs, ds.dropWhile (· ≠ ')') = ys
  intro hdrop
  cases hdrop with
  | nil | opener => simp
  | cons c h => cases h <;> simp

end Stripped

theorem stripped_namedOpen (style : NameStyle) (name : List Char) (hname : ∀ c ∈ name, IsNoParen c)
    {cs ds : List Char} (h : Stripped cs ds) :
    Stripped ((namedOpen style (String.ofList name)).chars ++ cs) ('(' :: ds) := by
  have hangle : IsNoParen '?' ∧ IsNoParen 'P' ∧ IsNoParen '<' ∧ IsNoParen '>' := by
    refine ⟨?_, ?_, ?_, ?_⟩ <;> exact ⟨by decide, by decide⟩
  have hinside : ∀ c ∈ style.opening.toList.tail ++ name ++ ['>'], IsNoParen c := by
    cases style <;> simpa [NameStyle.opening, or_imp, forall_and, hangle] using hname
  have hchars : (namedOpen style (String.ofList name)).chars =
      '(' :: (style.opening.toList.tail ++ name ++ ['>']) := by
    rw [chars_namedOpen]
    cases style <;> rfl
  rw [hchars]
  exact .opener hinside h

theorem isNamed_iff (t : Token) : t.isNamed = true ↔ ∃ style name, t = namedOpen style name := by
  cases t <;> simp [isNamed]

/-- Only at a parenthesis is a name read, and none of it is a parenthesis. -/
theorem read_named {c : Char} {cs : List Char} (h : (read c cs).1.isNamed) :
    ∃ style name, (read c cs).1 = namedOpen style (String.ofList name) ∧ ∀ c ∈ name, IsNoParen c := by
  unfold read at h ⊢
  split at h
  · cases cs <;> cases h
  split at h
  · cases h
  split at h
  · next hslash hbracket hparen =>
      rw [if_neg hslash, if_neg hbracket, if_pos hparen]
      rcases readGroup_cases cs with ⟨heq, -⟩ | ⟨rest, -, heq⟩ | ⟨style, name, rest, heq, hname⟩
      · rw [heq] at h
        cases h
      · rw [heq] at h
        cases h
      · exact ⟨style, name, by rw [heq], hname⟩
  split at h
  · exfalso
    revert h
    fun_cases readDollar cs <;> simp [isNamed]
  · cases h

theorem names_marked_of_not_named {t : Token} (h : t.isNamed = false) :
    ∀ x ∈ Marked.names t.marked, x = none := by
  cases t <;> simp_all [isNamed, marked]

theorem stripped_bare (cs : List Char) : Stripped cs (bare cs) := by
  induction cs using lexList_induction with
  | nil => simpa [bare] using Stripped.nil
  | step c cs ih =>
      rw [bare, marks_cons, Marked.chars_append, ← chars_read c cs]
      by_cases hnamed : (read c cs).1.isNamed
      · obtain ⟨style, name, ht, hname⟩ := read_named hnamed
        rw [ht]
        exact stripped_namedOpen style name hname ih
      · rw [chars_marked (names_marked_of_not_named (eq_false_of_ne_true hnamed))]
        exact ih.append_left _

theorem marks_of_stripped_nil {c : Char} {cs next : List Char} (hrest : (read c cs).2 = [])
    (h : Stripped (read c cs).2 next) :
    marks ((read c cs).1.chars ++ next) = (read c cs).1.marked ++ marks next := by
  rw [hrest] at h
  cases h
  have hchars := chars_read c cs
  rw [hrest] at hchars
  rw [hchars, marks_cons, hrest]

theorem marks_class_of_stripped {cs next : List Char} (h : Stripped (readClass cs).2 next) :
    marks ((readClass cs).1.chars ++ next) = (readClass cs).1.marked ++ marks next := by
  by_cases hrest : (readClass cs).2 = []
  · exact marks_of_stripped_nil (c := '[') hrest h
  · exact (isFirm_readClass hrest).marks_append next

theorem read_dollar_eq (cs : List Char) : read '$' cs = readDollar cs := rfl

theorem read_paren_eq (cs : List Char) : read '(' cs = readGroup cs := rfl

theorem splitIdentifier_of_stripped {cs ds id rest : List Char} (h : Stripped cs ds)
    (hsplit : splitIdentifier ds = some (id, rest)) :
    ∃ rest', splitIdentifier cs = some (id, rest') ∧ Stripped rest' rest := by
  have hword := @Stripped.splitWord cs ds Char.isAlpha isIdentifierPart h (by decide) (by decide)
  rcases hword with ⟨-, hnone⟩ | ⟨word, rest', rest'', hcs, hds, hrest⟩
  · cases hsplit.symm.trans hnone
  · cases hsplit.symm.trans hds
    exact ⟨rest', hcs, hrest⟩

theorem readDollar_of_stripped {cs ds : List Char} (h : Stripped cs ds)
    (hlone : readDollar cs = (text "$", cs)) : readDollar ds = (text "$", ds) := by
  fun_cases readDollar ds with
  | case1 inside id rest hsplit =>
      cases h with
      | cons _ h =>
          obtain ⟨rest', hsplit', hrest⟩ := splitIdentifier_of_stripped h hsplit
          cases hrest with
          | cons => simp [readDollar, hsplit'] at hlone
  | case2 inside id more hsplit rest hclose =>
      cases h with
      | cons _ h =>
          obtain ⟨rest', hsplit', hrest⟩ := splitIdentifier_of_stripped h hsplit
          obtain ⟨rest'', hclose'⟩ : ∃ rest'', (rest'.tail).dropWhile (· ≠ ')') = ')' :: '}' :: rest'' := by
            cases hrest with
            | cons _ h => exact h.closes_iff.1 ⟨rest, hclose⟩
            | opener hname h =>
                rw [List.tail_cons, List.dropWhile_append_of_pos fun c hc => by simpa using (hname c hc).2]
                exact h.closes_iff.1 ⟨rest, hclose⟩
          obtain ⟨more', rfl⟩ := List.head?_eq_some_iff.1 hrest.head?.symm
          rw [List.tail_cons] at hclose'
          simp only [readDollar, hsplit', hclose'] at hlone
          cases hlone
  | case3 | case4 | case5 => rfl

theorem marks_dollar_of_stripped {cs next : List Char} (h : Stripped (readDollar cs).2 next) :
    marks ((readDollar cs).1.chars ++ next) = (readDollar cs).1.marked ++ marks next := by
  by_cases hfirm : (readDollar cs).1.IsFirm
  · exact hfirm.marks_append next
  · have hlone := readDollar_of_not_isFirm hfirm
    rw [hlone] at h ⊢
    dsimp only at h ⊢
    exact marks_of_read ((read_dollar_eq next).trans (readDollar_of_stripped h hlone))

/-- A token that gives no name is read in the same way where the names are gone from what follows. -/
theorem marks_of_stripped {c : Char} {cs next : List Char} (hnamed : (read c cs).1.isNamed = false)
    (h : Stripped (read c cs).2 next) :
    marks ((read c cs).1.chars ++ next) = (read c cs).1.marked ++ marks next := by
  cases hc : isStructural c with
  | false =>
      rw [read_ordinary hc] at h ⊢
      have hall : Ordinary (c :: cs.takeWhile (!isStructural ·)) :=
        List.forall_mem_cons.2 ⟨hc, fun x hx => by simpa using List.all_eq_true.1 List.all_takeWhile x hx⟩
      rw [marked_text, chars, render, String.toList_ofList]
      exact marks_text hall next
  | true =>
      -- an escape, a class, a parenthesis, or a dollar sign
      rcases isStructural_cases hc with rfl | rfl | rfl | rfl
      · cases cs with
        | nil => exact marks_of_stripped_nil rfl h
        | cons d ds =>
          have hread : read '\\' (d :: ds) = (escape (String.ofList ['\\', d]), ds) := rfl
          rw [hread]
          simpa [chars, render, marked] using marks_escape d next
      · exact marks_class_of_stripped h
      · rw [read_paren_eq] at hnamed h ⊢
        have hstands : (readGroup cs).1.clashes (readGroup cs).2.head? = false →
            (readGroup cs).1.Stands (readGroup cs).2 := stands_readGroup
        rcases readGroup_cases cs with ⟨heq, hhead⟩ | ⟨rest, rfl, heq⟩ | ⟨style, name, rest, heq, -⟩
        · rw [heq] at h ⊢
          rw [← h.head?] at hhead
          dsimp only
          exact marks_open hhead
        · rw [heq] at h hstands ⊢
          refine marks_of_stands rfl ((hstands rfl).transfer fun p q hp hq => ?_)
          rw [hq] at h
          exact h.exists_append hp
        · rw [heq] at hnamed
          cases hnamed
      · exact marks_dollar_of_stripped h

section Bare

variable {c : Char} {cs : List Char}

theorem bare_cons_of_not_named (h : (read c cs).1.isNamed = false) :
    bare (c :: cs) = (read c cs).1.chars ++ bare (read c cs).2 := by
  rw [bare, marks_cons, Marked.chars_append, chars_marked (names_marked_of_not_named h), bare]

theorem bare_cons_of_named (h : (read c cs).1.isNamed) : bare (c :: cs) = '(' :: bare (read c cs).2 := by
  obtain ⟨style, name, ht⟩ := (isNamed_iff _).1 h
  rw [bare, marks_cons, ht]
  rfl

theorem marks_bare_of_not_named (h : (read c cs).1.isNamed = false) :
    marks (bare (c :: cs)) = (read c cs).1.marked ++ marks (bare (read c cs).2) := by
  rw [bare_cons_of_not_named h, marks_of_stripped h (stripped_bare _)]

theorem length_names_of_named (h : (read c cs).1.isNamed) :
    (Marked.names (marks (c :: cs))).length = (Marked.names (marks (read c cs).2)).length + 1 := by
  obtain ⟨style, name, ht⟩ := (isNamed_iff _).1 h
  rw [marks_cons, ht]
  rfl

theorem names_bare (h : merges (lexList cs) = false) :
    Marked.names (marks (bare cs)) = (Marked.names (marks cs)).map fun _ => none := by
  induction cs using lexList_induction with
  | nil => simp [bare]
  | step c cs ih =>
      rw [lexList_cons, merges, renders_lexList, Bool.or_eq_false_iff] at h
      obtain ⟨hhead, hrest⟩ := h
      rw [marks_cons]
      cases hnamed : (read c cs).1.isNamed with
      | false =>
          have hnone : (Marked.names (read c cs).1.marked).map (fun _ => none) =
              (Marked.names (read c cs).1.marked).map id :=
            List.map_congr_left fun x hx => (names_marked_of_not_named hnamed x hx).symm
          rw [marks_bare_of_not_named hnamed, Marked.names_append, Marked.names_append, ih hrest,
            List.map_append, hnone, List.map_id]
      | true =>
          obtain ⟨style, name, ht⟩ := (isNamed_iff _).1 hnamed
          have hnext : (bare (read c cs).2).head? ≠ some '?' := by
            rw [(stripped_bare _).head?]
            simpa [hnamed] using hhead
          rw [bare_cons_of_named hnamed, marks_open hnext, names_cons_opener, ih hrest, ht]
          rfl

/-- Where only groups without names are found, they are no more than before, and fewer if an opener merges with
what follows. -/
theorem length_names_bare (hnone : ∀ x ∈ Marked.names (marks (bare cs)), x = none) :
    (Marked.names (marks (bare cs))).length ≤ (Marked.names (marks cs)).length ∧
      (merges (lexList cs) → (Marked.names (marks (bare cs))).length < (Marked.names (marks cs)).length) := by
  induction cs using lexList_induction with
  | nil => simp [bare, lexList_nil, merges]
  | step c cs ih =>
      rw [lexList_cons, merges, renders_lexList]
      cases hnamed : (read c cs).1.isNamed with
      | false =>
          rw [marks_bare_of_not_named hnamed, Marked.names_append] at hnone ⊢
          obtain ⟨hle, hlt⟩ := ih (List.forall_mem_append.1 hnone).2
          rw [marks_cons, Marked.names_append, List.length_append, List.length_append, Bool.false_and,
            Bool.false_or]
          exact ⟨by omega, fun h => by have := hlt h; omega⟩
      | true =>
          rw [length_names_of_named hnamed, Bool.true_and]
          rw [bare_cons_of_named hnamed] at hnone ⊢
          have hhead := (stripped_bare (read c cs).2).head?
          rcases readGroup_cases (bare (read c cs).2) with
            ⟨-, hnext⟩ | ⟨ds, hds, heq⟩ | ⟨style, name, ds, heq, -⟩
          · rw [marks_open hnext, names_cons_opener] at hnone ⊢
            obtain ⟨hle, hlt⟩ := ih (List.forall_mem_cons.1 hnone).2
            rw [hhead] at hnext
            rw [List.length_cons, decide_eq_false hnext, Bool.false_or]
            exact ⟨by omega, fun h => by have := hlt h; omega⟩
          · -- the parenthesis and the question mark are read as one, and open no group
            have hskip : Marked.names (marks ('(' :: bare (read c cs).2)) =
                Marked.names (marks (bare (read c cs).2)) := by
              rw [marks_of_read ((read_paren_eq _).trans heq), hds, marks_ordinary (by decide)]
              rfl
            rw [hskip] at hnone ⊢
            have hle := (ih hnone).1
            exact ⟨by omega, fun _ => by omega⟩
          · rw [marks_of_read ((read_paren_eq _).trans heq)] at hnone
            cases hnone (some (String.ofList name)) (by simp [marked])

end Bare

def givenName? : Token → Option String
  | namedOpen _ name => some name
  | _ => none

theorem names_marks (cs : List Char) :
    Marked.names (marks cs) = ((lexList cs).filter isCapturing).map givenName? := by
  rw [marks]
  induction lexList cs with
  | nil => rfl
  | cons t ts ih =>
      rw [List.flatMap_cons, Marked.names_append, ih]
      cases t <;> simp [marked, List.filter_cons, isCapturing, givenName?]

theorem forall_not_named_iff (source : String) :
    (∀ style name, namedOpen style name ∉ lex source) ↔ ∀ x ∈ Marked.names (marks source.toList), x = none := by
  rw [names_marks]
  simp only [List.mem_map, List.mem_filter]
  constructor
  · rintro h x ⟨t, ⟨ht, -⟩, rfl⟩
    cases t <;> first | rfl | exact absurd ht (h _ _)
  · intro h style name ht
    cases h (some name) ⟨_, ⟨ht, rfl⟩, rfl⟩

end Token

open Token

theorem GroupMap.eq_empty_of_get? {α : Type} {m : GroupMap α} (h : ∀ i, m.get? i = none) : m = .empty := by
  obtain ⟨entries, hsorted⟩ := m
  cases entries with
  | nil => rfl
  | cons e entries =>
      have hsome : GroupMap.get? ⟨e :: entries, hsorted⟩ e.1 = some e.2 :=
        GroupMap.get?_eq_some_iff.2 List.mem_cons_self
      cases hsome.symm.trans (h e.1)

theorem GroupNames.Spells.eq_empty_iff {names : GroupNames} {xs : List (Option String)} (h : names.Spells xs) :
    names = .empty ↔ ∀ x ∈ xs, x = none := by
  constructor
  · rintro rfl x hx
    obtain ⟨i, hi⟩ := List.getElem?_of_mem hx
    have hnone := h i
    rw [hi] at hnone
    exact hnone.symm
  · intro hnone
    refine GroupMap.eq_empty_of_get? fun i => (h i).trans ?_
    cases hi : xs[i]? with
    | none => rfl
    | some x => exact hnone x (List.mem_of_getElem? hi)

theorem renumber_fixed_iff (text : String) (n : Nat) :
    renumber text = ⟨text, .empty, n⟩ ↔
      (∀ style name, .namedOpen style name ∉ lex text) ∧ countCapturing text + 1 = n := by
  have hreads := renumber_reads text
  have hempty := hreads.names.eq_empty_iff
  have hcount : (renumber text).groupCount = countCapturing text + 1 := by
    rw [hreads.groupCount, countCapturing_eq, Nat.add_comm]
  rw [List.forall_mem_cons, ← forall_not_named_iff] at hempty
  constructor
  · intro h
    rw [h] at hempty hcount
    exact ⟨(hempty.1 rfl).2, hcount.symm⟩
  · rintro ⟨hnamed, hn⟩
    have hbody : (renumber text).body = text := by
      rw [← String.toList_inj, hreads.body, chars_marks ((forall_not_named_iff text).1 hnamed)]
    have hnames := hempty.2 ⟨rfl, hnamed⟩
    rw [hn] at hcount
    revert hbody hnames hcount
    cases renumber text
    rintro rfl rfl rfl
    rfl

theorem get?_names_renumber (text : String) (i : Nat) (name : String) :
    (renumber text).names.get? i = some name ↔
      ∃ k style, i = k + 1 ∧ ((lex text).filter isCapturing)[k]? = some (.namedOpen style name) := by
  rw [(renumber_reads text).names i]
  cases i with
  | zero => simp
  | succ k =>
      rw [List.getElem?_cons_succ, names_marks, List.getElem?_map]
      simp only [Nat.add_right_cancel_iff, exists_and_left, exists_eq_left', lex]
      cases ((lexList text.toList).filter isCapturing)[k]? with
      | none => simp
      | some t => cases t <;> simp [givenName?]

/-- What has been renumbered stays as it is when it is renumbered, and the same groups are counted in it, just
where no opener that gives a name stands before a question mark. The names are in any case those of the
openers, each at the place of its opener among all that capture. -/
theorem renumber_stable_iff (text : String) :
    let r := renumber text
    (merges (lex text) = false ↔
        (∀ style name, .namedOpen style name ∉ lex r.body) ∧ countCapturing r.body + 1 = r.groupCount) ∧
      (merges (lex text) = false ↔ renumber r.body = ⟨r.body, .empty, r.groupCount⟩) ∧
        r.groupCount = countCapturing text + 1 ∧
          ∀ i name, r.names.get? i = some name ↔
            ∃ k style, i = k + 1 ∧ ((lex text).filter isCapturing)[k]? = some (.namedOpen style name) := by
  intro r
  have hreads := renumber_reads text
  have hbody : r.body.toList = bare text.toList := hreads.body
  have hcount : r.groupCount = countCapturing text + 1 := by
    rw [hreads.groupCount, countCapturing_eq, Nat.add_comm]
  have hstable : merges (lex text) = false ↔
      (∀ style name, .namedOpen style name ∉ lex r.body) ∧ countCapturing r.body + 1 = r.groupCount := by
    rw [forall_not_named_iff, hcount, countCapturing_eq, countCapturing_eq, hbody, Nat.add_right_cancel_iff]
    constructor
    · intro h
      rw [names_bare h]
      simp
    · rintro ⟨hnone, hlen⟩
      have hlt := (length_names_bare hnone).2
      rw [← Bool.not_eq_true]
      exact fun h => Nat.ne_of_lt (hlt h) hlen
  exact ⟨hstable, hstable.trans (renumber_fixed_iff r.body r.groupCount).symm, hcount,
    get?_names_renumber text⟩

/-- What is left of the first opener makes another with the question mark behind it. -/
example : (renumber "(?<n>?<m>x)").body = "(?<m>x)" ∧ (renumber "(?<m>x)").body = "(x)" := by
  decide +kernel

end Patchwork
