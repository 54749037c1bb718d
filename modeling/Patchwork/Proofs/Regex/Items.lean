import Patchwork.Proofs.Regex.Classes
import Patchwork.Proofs.Regex.Counts
import Patchwork.Proofs.Regex.Opening

namespace Patchwork.Regex

open Token

/-- The class is closed where the lexer closes it. -/
def ClosesAlike (s : String) : Prop := (Bracket.read false s.toList.tail).map Prod.snd = some []

instance : DecidablePred ClosesAlike := fun s =>
  inferInstanceAs (Decidable ((Bracket.read false s.toList.tail).map Prod.snd = some []))

theorem alike_of_marks {cs rest : List Char} {ms : List Marked}
    (h : ∀ s ∈ Marked.classes (marks cs), ClosesAlike s) (hmarks : marks cs = ms ++ marks rest) :
    ∀ s ∈ Marked.classes (marks rest), ClosesAlike s := by
  rw [hmarks, Marked.classes, List.filterMap_append] at h
  exact fun s hs => h s (List.mem_append_right _ hs)

namespace Item

variable {item : Item} {cs rest : List Char}

def Answered : Item → Prop
  | .piece t => t.Answered
  | _ => True

def signs : List Char := ['(', ')', '|', '?', '*', '+', '{', '[', '\\', '.', '^', '$']

theorem read_literal {v : Bool} {c : Char} (hc : c ∉ signs) (cs : List Char) :
    read v (c :: cs) = some (.piece (.literal ⟨c, false⟩), cs) := by
  simp only [signs, List.mem_cons, List.not_mem_nil, or_false, not_or] at hc
  simp [read, hc]

theorem not_structural_of_not_sign {c : Char} (hc : c ∉ signs) : isStructural c = false := by
  simp only [signs, List.mem_cons, List.not_mem_nil, or_false, not_or] at hc
  simp [isStructural, hc]

inductive Repeats : Char → Nat → Option Nat → Prop where
  | optional : Repeats '?' 0 (some 1)
  | star : Repeats '*' 0 none
  | plus : Repeats '+' 1 none

theorem Repeats.not_structural {c : Char} {min : Nat} {max : Option Nat} (h : Repeats c min max) :
    isStructural c = false := by
  cases h <;> decide

inductive Begins (v : Bool) : Char → List Char → Item → List Char → Prop where
  | opening {cs rest : List Char} {item : Item} (h : readOpening v cs = some (item, rest)) :
      Begins v '(' cs item rest
  | closing (cs : List Char) : Begins v ')' cs .closing cs
  | bar (cs : List Char) : Begins v '|' cs .bar cs
  | operator {c : Char} {cs rest : List Char} {item : Item} {min : Nat} {max : Option Nat}
      (hsign : Repeats c min max) (h : readOperator min max cs = (item, rest)) : Begins v c cs item rest
  | counted {cs rest : List Char} {item : Item} (h : readCounted v cs = some (item, rest)) :
      Begins v '{' cs item rest
  | «class» {cs rest : List Char} {s : ClassSet} (h : Bracket.read v cs = some (s, rest)) :
      Begins v '[' cs (.piece (.class s)) rest
  | escape {cs rest : List Char} {t : Tree} (h : readEscape v cs = some (t, rest)) :
      Begins v '\\' cs (.piece t) rest
  | dot (cs : List Char) : Begins v '.' cs (.piece .dot) cs
  | lineStart (cs : List Char) : Begins v '^' cs (.piece (.assertion .lineStart)) cs
  | lineEnd (cs : List Char) : Begins v '$' cs (.piece (.assertion .lineEnd)) cs
  | literal {c : Char} (hc : c ∉ signs) (cs : List Char) : Begins v c cs (.piece (.literal ⟨c, false⟩)) cs

theorem Begins.read {v : Bool} {c : Char} (h : Begins v c cs item rest) :
    read v (c :: cs) = some (item, rest) := by
  cases h with
  | opening h | counted h => exact h
  | closing | bar | dot | lineStart | lineEnd => rfl
  | operator hsign h => cases hsign <;> exact congrArg some h
  | «class» h => exact Option.map_eq_some_iff.2 ⟨_, h, rfl⟩
  | escape h => exact Option.map_eq_some_iff.2 ⟨_, h, rfl⟩
  | literal hc => exact read_literal hc cs

theorem begins_of_read {v : Bool} {c : Char} (h : read v (c :: cs) = some (item, rest)) :
    Begins v c cs item rest := by
  by_cases hc : c ∈ signs
  · simp only [signs, List.mem_cons, List.not_mem_nil, or_false] at hc
    rcases hc with rfl | rfl | rfl | rfl | rfl | rfl | rfl | rfl | rfl | rfl | rfl | rfl
    · exact .opening h
    · cases h
      exact .closing cs
    · cases h
      exact .bar cs
    · exact .operator .optional (Option.some.inj h)
    · exact .operator .star (Option.some.inj h)
    · exact .operator .plus (Option.some.inj h)
    · exact .counted h
    · obtain ⟨⟨s, after⟩, hs, heq⟩ := Option.map_eq_some_iff.1 h
      cases heq
      exact .class hs
    · obtain ⟨⟨t, after⟩, ht, heq⟩ := Option.map_eq_some_iff.1 h
      cases heq
      exact .escape ht
    · cases h
      exact .dot cs
    · cases h
      exact .lineStart cs
    · cases h
      exact .lineEnd cs
  · rw [read_literal hc] at h
    cases h
    exact .literal hc cs

end Item

namespace Tracks

variable {v : Bool} {n : Nat} {R : List Char → List Char → Prop} {item : Item} {cs ds rest : List Char}

theorem self (v : Bool) (k : Nat) : Tracks v 0 fun cs ds => cs = ds ∧ cs.length ≤ k where
  nil h _ := h.1 ▸ ends_nil
  head h := ⟨_, h.1.symm⟩
  tail h _ := ⟨(List.cons.inj h.1).2, Nat.le_of_succ_le h.2⟩
  blanks h := ⟨congrArg _ h.1, Nat.le_trans (afterBlanks_length v _) h.2⟩
  peeks h _ _ := by rw [h.1]

theorem length_readOpening (h : Item.readOpening v cs = some (item, rest)) : rest.length ≤ cs.length := by
  obtain ⟨_, -, -, hle⟩ := (self v cs.length).readOpening ⟨rfl, Nat.le_refl _⟩ h (Nat.zero_le _)
  exact hle

theorem length_readEscape {t : Tree} (h : Regex.readEscape v cs = some (t, rest)) : rest.length ≤ cs.length := by
  obtain ⟨_, -, -, hle⟩ := (self v cs.length).readEscape ⟨rfl, Nat.le_refl _⟩ h (Nat.zero_le _)
  exact hle

theorem length_read {c : Char} (h : Item.read v (c :: cs) = some (item, rest)) : rest.length ≤ cs.length := by
  have hself := self v cs.length
  have hcs : cs = cs ∧ cs.length ≤ cs.length := ⟨rfl, Nat.le_refl _⟩
  cases Item.begins_of_read h with
  | opening h => exact length_readOpening h
  | operator hsign h =>
      obtain ⟨_, -, -, hle⟩ := hself.readOperator hcs h (Nat.zero_le _)
      exact hle
  | counted h =>
      obtain ⟨_, -, -, hle⟩ := hself.readCounted hcs h (Nat.zero_le _)
      exact hle
  | «class» h =>
      obtain ⟨_, -, -, hle⟩ := hself.readClass (Nat.zero_le 1) (fun h => Nat.le_of_eq (congrArg _ h.1)) hcs h
      exact hle
  | escape h => exact length_readEscape h
  | closing | bar | dot | lineStart | lineEnd | literal => exact Nat.le_refl _

theorem readItem (h : Tracks v n R)
    (hclass : cs.head? ≠ some '[' ∨ n ≤ 1 ∧ ∀ {cs ds}, R cs ds → cs.length ≤ ds.length) (hR : R cs ds)
    (hread : Item.read v cs = some (item, rest)) (hn : n ≤ rest.length) :
    ∃ rest', Item.read v ds = some (item, rest') ∧ R rest rest' := by
  cases cs with
  | nil => cases hread
  | cons c cs =>
      obtain ⟨ds, rfl⟩ := h.head hR
      -- what follows the item is in the texts behind the first character, so that these go along too
      have htail : R cs ds := h.tail hR (.inr (Nat.le_trans hn (length_read hread)))
      suffices hbegins : ∃ rest', Item.Begins v c ds item rest' ∧ R rest rest' by
        obtain ⟨rest', hds, hrest⟩ := hbegins
        exact ⟨rest', hds.read, hrest⟩
      cases Item.begins_of_read hread with
      | opening hread =>
          obtain ⟨rest', hread', hrest⟩ := h.readOpening htail hread hn
          exact ⟨rest', .opening hread', hrest⟩
      | operator hsign hop =>
          obtain ⟨rest', hop', hrest⟩ := h.readOperator htail hop hn
          exact ⟨rest', .operator hsign hop', hrest⟩
      | counted hread =>
          obtain ⟨rest', hread', hrest⟩ := h.readCounted htail hread hn
          exact ⟨rest', .counted hread', hrest⟩
      | «class» hs =>
          obtain ⟨hone, hlen⟩ := hclass.resolve_left fun hne => hne rfl
          obtain ⟨rest', hs', hrest⟩ := h.readClass hone hlen htail hs
          exact ⟨rest', .class hs', hrest⟩
      | escape ht =>
          obtain ⟨rest', ht', hrest⟩ := h.readEscape htail ht hn
          exact ⟨rest', .escape ht', hrest⟩
      | closing => exact ⟨ds, .closing ds, htail⟩
      | bar => exact ⟨ds, .bar ds, htail⟩
      | dot => exact ⟨ds, .dot ds, htail⟩
      | lineStart => exact ⟨ds, .lineStart ds, htail⟩
      | lineEnd => exact ⟨ds, .lineEnd ds, htail⟩
      | literal hc => exact ⟨ds, .literal hc ds, htail⟩

/-- A text goes along with what it becomes where more is put behind it, up to its last character or, if
a parenthesis follows, to its end. -/
theorem behind {next : List Char} (hnext : n = 0 → Ends next) :
    Tracks false n fun cs ds => ds = cs ++ next where
  nil h hn := by rw [h]; exact hnext hn
  head h := ⟨_, h⟩
  tail h _ := (List.cons.inj h).2
  blanks h := h
  peeks {c cs ds} h hn hc := by
    subst h
    cases cs with
    | nil => exact ⟨fun hhead => absurd hc (hnext (hn rfl) c hhead), fun hhead => by cases hhead⟩
    | cons d cs => exact Iff.rfl

end Tracks

theorem Bracket.read_append {s : ClassSet} {cs rest : List Char} (h : Bracket.read false cs = some (s, rest))
    (next : List Char) : Bracket.read false (cs ++ next) = some (s, rest ++ next) := by
  have htracks : Tracks false 1 fun cs ds => ds = cs ++ next := .behind (by simp)
  obtain ⟨_, hread, rfl⟩ := htracks.readClass (Nat.le_refl 1) (fun h => by simp [h]) rfl h
  exact hread

namespace Item

variable {item : Item} {cs rest : List Char}

/-- An item is read in the same way with a closing parenthesis behind what follows it. -/
theorem read_append (h : read false cs = some (item, rest)) {next : List Char} (hnext : Ends next) :
    read false (cs ++ next) = some (item, rest ++ next) := by
  have htracks : Tracks false 0 fun cs ds => ds = cs ++ next := .behind fun _ => hnext
  obtain ⟨_, hread, rfl⟩ :=
    htracks.readItem (.inr ⟨Nat.zero_le 1, fun h => by simp [h]⟩) rfl h (Nat.zero_le _)
  exact hread

def Passes (item : Item) (cs rest : List Char) : Prop :=
  (∀ name, item ≠ .opening (.capture name)) ∧
    ∃ ms, marks cs = ms ++ marks rest ∧ cs = Marked.chars ms ++ rest ∧ Marked.names ms = []

theorem passes_of_leaves {c : Char} {ds : List Char} (hitem : ∀ name, item ≠ .opening (.capture name))
    (hc : isStructural c = false) (h : Leaves ds rest) : Passes item (c :: ds) rest := by
  obtain ⟨p, rfl, hp⟩ := h
  refine ⟨hitem, Marked.plain (c :: p), ?_, by simp, Marked.names_plain _⟩
  rw [marks_ordinary hc, marks_text hp]
  rfl

/-- A class that is closed alike is read up to where its token ends, and so whatever follows it. -/
theorem exists_class {s : ClassSet} (h : Bracket.read false cs = some (s, rest))
    (halike : ∀ t ∈ Marked.classes (marks ('[' :: cs)), ClosesAlike t) :
    ∃ p, cs = p ++ rest ∧ marks ('[' :: cs) = Marked.ofClass (String.ofList ('[' :: p)) ++ marks rest ∧
      ∀ next, Bracket.read false (p ++ next) = some (s, next) := by
  rcases hclass : readClass cs with ⟨t, after⟩
  have hchars := chars_readClass cs
  rw [hclass] at hchars
  obtain ⟨p, rfl⟩ : ∃ p, t = .charClass (String.ofList ('[' :: p)) :=
    ⟨_, (Prod.mk.inj hclass).1.symm⟩
  have hmarks : marks ('[' :: cs) = Marked.ofClass (String.ofList ('[' :: p)) ++ marks after :=
    marks_of_read (show Token.read '[' cs = _ from hclass)
  have hcs : cs = p ++ after := by simpa [chars, render] using hchars.symm
  have hread : (Bracket.read false p).map Prod.snd = some [] := by
    have hmem : String.ofList ('[' :: p) ∈ Marked.classes (marks ('[' :: cs)) := by
      rw [hmarks]
      simp [Marked.classes, Marked.ofClass, Marked.class?]
    simpa [ClosesAlike] using halike _ hmem
  obtain ⟨⟨s', after'⟩, hs', rfl⟩ := Option.map_eq_some_iff.1 hread
  have happend := Bracket.read_append hs'
  rw [hcs, happend] at h
  obtain ⟨rfl, rfl⟩ := Prod.mk.inj (Option.some.inj h)
  exact ⟨p, hcs, hmarks, happend⟩

theorem passes_class {s : ClassSet} (h : Bracket.read false cs = some (s, rest))
    (halike : ∀ t ∈ Marked.classes (marks ('[' :: cs)), ClosesAlike t) :
    Passes (.piece (.class s)) ('[' :: cs) rest := by
  obtain ⟨p, hcs, hmarks, -⟩ := exists_class h halike
  refine ⟨by simp, _, hmarks, ?_, Marked.names_ofClass _⟩
  simp [hcs]

theorem passes_escape {t : Tree} (h : readEscape false cs = some (t, rest)) (hanswered : t.Answered) :
    Passes (.piece t) ('\\' :: cs) rest := by
  cases cs with
  | nil => cases h
  | cons d ds =>
      obtain ⟨p, rfl, hp⟩ := leaves_readEscape h hanswered
      refine ⟨by simp, Marked.plain ('\\' :: d :: p), ?_, by simp, Marked.names_plain _⟩
      rw [marks_escape, marks_text hp]
      simp

/-- What could be the identifier of a reference is no count. -/
theorem readCounted_alpha {c : Char} (h : c.isAlpha) (cs : List Char) :
    readCounted false (c :: cs) = none := by
  obtain ⟨hspace, hdigit, -⟩ := Bracket.isAlpha_cases h
  have hcount : readCount false (c :: cs) = none := by
    simp [readCount, hspace, readDigits, hdigit]
  simp [readCounted, hcount]

theorem readDollar_alone (hnext : cs ≠ [] → (read false cs).isSome) :
    readDollar cs = (.text "$", cs) := by
  cases cs with
  | nil => rfl
  | cons c cs =>
      by_cases hc : c = '{'
      · subst hc
        have hsome := hnext (by simp)
        cases hsplit : splitIdentifier cs with
        | none => simp [readDollar, hsplit]
        | some p =>
            cases cs with
            | nil => cases hsplit
            | cons d ds =>
                simp only [splitIdentifier, splitWord] at hsplit
                split at hsplit
                · next hd =>
                    rw [show read false ('{' :: d :: ds) = readCounted false (d :: ds) from rfl,
                      readCounted_alpha hd] at hsome
                    cases hsome
                · cases hsplit
      · simp [readDollar, hc]

theorem marks_item (h : read false cs = some (item, rest)) (hanswered : item.Answered)
    (hnext : rest ≠ [] → (read false rest).isSome)
    (halike : ∀ s ∈ Marked.classes (marks cs), ClosesAlike s) :
    (∃ name, item = .opening (.capture name) ∧ marks cs = Marked.opener name :: marks rest ∧
        (name = none → cs = '(' :: rest)) ∨ Passes item cs rest := by
  cases cs with
  | nil => cases h
  | cons c cs =>
      cases begins_of_read h with
      | opening h =>
          rcases marks_opening h with ⟨name, hitem, hmarks, hrest⟩ | ⟨hitem, p, hcs, hmarks⟩
          · exact .inl ⟨name, hitem, hmarks, fun hname => by rw [hrest hname]⟩
          · refine .inr ⟨hitem, Marked.plain p, hmarks, by rw [hcs, Marked.chars_plain], Marked.names_plain p⟩
      | operator hsign h =>
          obtain ⟨greedy, rfl⟩ := exists_of_readOperator h
          exact .inr (passes_of_leaves (by simp) hsign.not_structural (leaves_readOperator h))
      | counted h =>
          obtain ⟨min, max, greedy, rfl⟩ := exists_of_readCounted h
          exact .inr (passes_of_leaves (by simp) (by decide) (leaves_readCounted h))
      | «class» hs => exact .inr (passes_class hs halike)
      | escape ht => exact .inr (passes_escape ht hanswered)
      | closing | bar | dot | lineStart => exact .inr (passes_of_leaves (by simp) (by decide) (.refl _))
      | lineEnd =>
          have hdollar : Token.read '$' rest = (.text "$", rest) := readDollar_alone hnext
          exact .inr ⟨by simp, Marked.plain ['$'], marks_of_read hdollar, rfl, rfl⟩
      | literal hc => exact .inr (passes_of_leaves (by simp) (not_structural_of_not_sign hc) (.refl _))

end Item

end Patchwork.Regex
