import Patchwork.Proofs.Regex.Counts
import Patchwork.Proofs.Regex.Opening

namespace Patchwork.Regex

open Token

/-- The texts are related as long as at least `n` characters of the first are left: they go on with the
same character, and where the first ends the second ends or goes on with a parenthesis. Characters without
a meaning of their own may be taken from the last `n` too. -/
structure Tracks (v : Bool) (n : Nat) (R : List Char → List Char → Prop) : Prop where
  nil : ∀ {ds}, R [] ds → n = 0 → Ends ds
  head : ∀ {c cs ds}, R (c :: cs) ds → ∃ ds', ds = c :: ds'
  tail : ∀ {c cs ds}, R (c :: cs) (c :: ds) → isStructural c = false ∨ n ≤ cs.length → R cs ds
  blanks : ∀ {cs ds}, R cs ds → R (afterBlanks v cs) (afterBlanks v ds)
  peeks : ∀ {c cs ds}, R cs ds → (cs = [] → n = 0) → IsNoParen c → (peek v ds = some c ↔ peek v cs = some c)

namespace Tracks

variable {v : Bool} {n : Nat} {R : List Char → List Char → Prop} {c : Char} {cs ds rest : List Char}

/-- The first has ended behind its blanks, or both go on with the same character. -/
theorem next (h : Tracks v n R) (hR : R cs ds) :
    afterBlanks v cs = [] ∨ ∃ c cs' ds', afterBlanks v cs = c :: cs' ∧ afterBlanks v ds = c :: ds' ∧
      R (c :: cs') (c :: ds') ∧ cs'.length < cs.length ∧ ds'.length < ds.length := by
  have hafter := h.blanks hR
  cases hcs : afterBlanks v cs with
  | nil => exact .inl rfl
  | cons c cs' =>
      rw [hcs] at hafter
      obtain ⟨ds', hds⟩ := h.head hafter
      rw [hds] at hafter
      have hlt := afterBlanks_length v cs
      have hlt' := afterBlanks_length v ds
      rw [hcs] at hlt
      rw [hds] at hlt'
      exact .inr ⟨c, cs', ds', rfl, hds, hafter, hlt, hlt'⟩

theorem head?_iff (h : Tracks v n R) (hR : R cs ds) (hn : cs = [] → n = 0) (hc : IsNoParen c) :
    ds.head? = some c ↔ cs.head? = some c := by
  cases cs with
  | nil =>
      have hends := h.nil hR (hn rfl)
      exact ⟨fun hds => absurd hc (hends c hds), fun hcs => by cases hcs⟩
  | cons d cs =>
      obtain ⟨ds, rfl⟩ := h.head hR
      exact Iff.rfl

theorem eq_zero_of_nil (h : n ≤ cs.length) (hcs : cs = []) : n = 0 := by
  subst hcs
  exact Nat.le_zero.1 h

theorem dropWhile (h : Tracks v n R) {test : Char → Bool} (hR : R cs ds)
    (htest : ∀ c, test c = true → IsNoParen c ∧ isStructural c = false)
    (hn : cs.dropWhile test = [] → n = 0) : R (cs.dropWhile test) (ds.dropWhile test) := by
  induction cs generalizing ds with
  | nil =>
      have hends := h.nil hR (hn rfl)
      have hds : ds.dropWhile test = ds := by
        cases ds with
        | nil => rfl
        | cons d ds => exact List.dropWhile_cons_of_neg fun hd => hends d rfl (htest d hd).1
      rwa [hds]
  | cons c cs ih =>
      obtain ⟨ds, rfl⟩ := h.head hR
      cases hc : test c with
      | true =>
          rw [List.dropWhile_cons_of_pos hc] at hn ⊢
          rw [List.dropWhile_cons_of_pos hc]
          exact ih (h.tail hR (.inl (htest c hc).2)) hn
      | false => simpa [hc] using hR

theorem readHexDigits (h : Tracks v n R) {k value code : Nat} (hR : R cs ds)
    (hread : readHexDigits v k value cs = some (code, rest)) :
    ∃ rest', Regex.readHexDigits v k value ds = some (code, rest') ∧ R rest rest' := by
  induction k generalizing value cs ds with
  | zero =>
      cases hread
      exact ⟨ds, rfl, hR⟩
  | succ k ih =>
      cases cs with
      | nil => cases hread
      | cons c cs =>
          obtain ⟨ds, rfl⟩ := h.head hR
          obtain ⟨digit, hdigit, hread⟩ := Option.bind_eq_some_iff.1 hread
          have hR := h.blanks (h.tail hR (.inl (isStructural_of_hexDigit? hdigit)))
          obtain ⟨rest', hread', hrest⟩ := ih hR hread
          exact ⟨rest', Option.bind_eq_some_iff.2 ⟨digit, hdigit, hread'⟩, hrest⟩

theorem readHexBrace (h : Tracks v n R) {fuel fuel' code : Nat} {value : Option Nat} (hR : R cs ds)
    (hread : readHexBrace v fuel value cs = some (code, rest)) (hfuel : ds.length < fuel') :
    ∃ rest', Regex.readHexBrace v fuel' value ds = some (code, rest') ∧ R rest rest' := by
  induction fuel generalizing fuel' value cs ds with
  | zero => cases hread
  | succ fuel ih =>
      rcases h.next hR with hnil | ⟨c, cs', ds', hcs, hds, hR, -, hlt⟩
      · rw [readHexBrace_nil hnil] at hread
        cases hread
      obtain ⟨fuel', rfl⟩ := Nat.exists_eq_succ_of_ne_zero (Nat.ne_zero_of_lt hfuel)
      by_cases hc : c = '}'
      · subst hc
        rw [readHexBrace_close hcs] at hread
        obtain ⟨code, hvalue, heq⟩ := Option.map_eq_some_iff.1 hread
        cases heq
        refine ⟨afterBlanks v ds', ?_, h.blanks (h.tail hR (.inl (by decide)))⟩
        rw [readHexBrace_close hds, hvalue]
        rfl
      · rw [readHexBrace_cons hcs hc] at hread
        obtain ⟨digit, hdigit, hread⟩ := Option.bind_eq_some_iff.1 hread
        have hR := h.tail hR (.inl (isStructural_of_hexDigit? hdigit))
        have hlt : ds'.length < fuel' := by omega
        obtain ⟨rest', hread', hrest⟩ := ih hR hread hlt
        refine ⟨rest', ?_, hrest⟩
        rw [readHexBrace_cons hds hc, hdigit]
        exact hread'

theorem readCodePoint (h : Tracks v n R) {digits : Nat} (hdigits : digits ≠ 0) {l : Literal} (hR : R cs ds)
    (hread : readCodePoint v digits cs = some (l, rest)) :
    ∃ rest', Regex.readCodePoint v digits ds = some (l, rest') ∧ R rest rest' := by
  rcases h.next hR with hnil | ⟨c, cs', ds', hcs, hds, hafter, -, -⟩
  · obtain ⟨k, rfl⟩ := Nat.exists_eq_succ_of_ne_zero hdigits
    rw [readCodePoint_digits (by simp [hnil]), hnil] at hread
    cases hread
  by_cases hc : c = '{'
  · subst hc
    rw [readCodePoint_brace hcs] at hread
    obtain ⟨⟨code, after⟩, hbrace, hread⟩ := Option.bind_eq_some_iff.1 hread
    obtain ⟨char, hchar, heq⟩ := Option.map_eq_some_iff.1 hread
    cases heq
    have hR := h.tail hafter (.inl (by decide))
    obtain ⟨rest', hbrace', hrest⟩ := h.readHexBrace hR hbrace (Nat.lt_succ_self ds'.length)
    refine ⟨rest', ?_, hrest⟩
    rw [readCodePoint_brace hds, hbrace', Option.bind_some, hchar]
    rfl
  · rw [readCodePoint_digits (by simp [hcs, hc]), hcs] at hread
    obtain ⟨⟨code, after⟩, hhex, hread⟩ := Option.bind_eq_some_iff.1 hread
    obtain ⟨char, hchar, heq⟩ := Option.map_eq_some_iff.1 hread
    cases heq
    obtain ⟨rest', hhex', hrest⟩ := h.readHexDigits hafter hhex
    refine ⟨rest', ?_, hrest⟩
    rw [readCodePoint_digits (by simp [hds, hc]), hds, hhex', Option.bind_some, hchar]
    rfl

theorem length_readBraced {fuel : Nat} {taken name : List Char}
    (h : Regex.readBraced v fuel taken cs = some (name, rest)) : rest.length < cs.length := by
  induction fuel generalizing taken cs with
  | zero => cases h
  | succ fuel ih =>
      have hle := afterBlanks_length v cs
      cases hcs : afterBlanks v cs with
      | nil =>
          rw [readBraced_nil hcs] at h
          cases h
      | cons c cs' =>
          rw [hcs, List.length_cons] at hle
          by_cases hc : c = '}'
          · subst hc
            rw [readBraced_close hcs] at h
            cases h
            exact hle
          · rw [readBraced_cons hcs hc] at h
            exact Nat.lt_trans (ih h) hle

theorem readBraced (h : Tracks v n R) {fuel fuel' : Nat} {taken name : List Char} (hR : R cs ds)
    (hread : readBraced v fuel taken cs = some (name, rest)) (hn : n ≤ rest.length)
    (hfuel : ds.length < fuel') :
    ∃ rest', Regex.readBraced v fuel' taken ds = some (name, rest') ∧ R rest rest' := by
  induction fuel generalizing fuel' taken cs ds with
  | zero => cases hread
  | succ fuel ih =>
      rcases h.next hR with hnil | ⟨c, cs', ds', hcs, hds, hR, -, hlt⟩
      · rw [readBraced_nil hnil] at hread
        cases hread
      obtain ⟨fuel', rfl⟩ := Nat.exists_eq_succ_of_ne_zero (Nat.ne_zero_of_lt hfuel)
      by_cases hc : c = '}'
      · subst hc
        rw [readBraced_close hcs] at hread
        cases hread
        exact ⟨ds', readBraced_close hds _ _, h.tail hR (.inl (by decide))⟩
      · rw [readBraced_cons hcs hc] at hread
        have hlen := length_readBraced hread
        have hR := h.tail hR (.inr (by omega))
        have hlt : ds'.length < fuel' := by omega
        obtain ⟨rest', hread', hrest⟩ := ih hR hread hlt
        exact ⟨rest', by rw [readBraced_cons hds hc, hread'], hrest⟩

theorem readProperty (h : Tracks v n R) {negated : Bool} {s : ClassSet} (hR : R cs ds)
    (hread : readProperty v negated cs = some (s, rest)) (hn : n ≤ rest.length) :
    ∃ rest', Regex.readProperty v negated ds = some (s, rest') ∧ R rest rest' := by
  rcases h.next hR with hnil | ⟨c, cs', ds', hcs, hds, hR, -, -⟩
  · rw [readProperty_nil hnil] at hread
    cases hread
  by_cases hbrace : c = '{'
  · subst hbrace
    rw [readProperty_brace hcs] at hread
    obtain ⟨⟨name, after⟩, hname, heq⟩ := Option.map_eq_some_iff.1 hread
    cases heq
    have hR := h.tail hR (.inl (by decide))
    obtain ⟨rest', hname', hrest⟩ := h.readBraced hR hname hn (Nat.lt_succ_self ds'.length)
    exact ⟨rest', by rw [readProperty_brace hds, hname']; rfl, hrest⟩
  by_cases hbackslash : c = '\\'
  · subst hbackslash
    rw [readProperty_backslash hcs] at hread
    cases hread
  · rw [readProperty_letter hcs ⟨hbrace, hbackslash⟩] at hread
    cases hread
    have hle := afterBlanks_length v cs'
    have hR := h.tail hR (.inr (by omega))
    exact ⟨afterBlanks v ds', readProperty_letter hds ⟨hbrace, hbackslash⟩ _, h.blanks hR⟩

theorem readBoundaryName (h : Tracks v n R) {fuel fuel' : Nat} {taken name : List Char} (hR : R cs ds)
    (hread : readBoundaryName v fuel taken cs = some (name, rest)) (hfuel : ds.length < fuel') :
    ∃ rest', Regex.readBoundaryName v fuel' taken ds = some (name, rest') ∧ R rest rest' := by
  induction fuel generalizing fuel' taken cs ds with
  | zero => cases hread
  | succ fuel ih =>
      rcases h.next hR with hnil | ⟨c, cs', ds', hcs, hds, hR, -, hlt⟩
      · rw [readBoundaryName_nil hnil] at hread
        cases hread
      obtain ⟨fuel', rfl⟩ := Nat.exists_eq_succ_of_ne_zero (Nat.ne_zero_of_lt hfuel)
      by_cases hc : c = '}'
      · subst hc
        rw [readBoundaryName_close hcs] at hread
        cases hread
        exact ⟨ds', readBoundaryName_close hds _ _, h.tail hR (.inl (by decide))⟩
      · rw [readBoundaryName_cons hcs hc] at hread
        split at hread
        · next hpart =>
            have hR := h.tail hR (.inl (isStructural_of_boundaryName hpart))
            have hlt : ds'.length < fuel' := by omega
            obtain ⟨rest', hread', hrest⟩ := ih hR hread hlt
            exact ⟨rest', by rw [readBoundaryName_cons hds hc, if_pos hpart, hread'], hrest⟩
        · cases hread

theorem readWordBoundary (h : Tracks v n R) {a : Assertion} (hR : R cs ds)
    (hread : readWordBoundary v cs = some (a, rest)) (hn : n ≤ rest.length) :
    ∃ rest', Regex.readWordBoundary v ds = some (a, rest') ∧ R rest rest' := by
  by_cases hbrace : cs.head? = some '{'
  · obtain ⟨cs, rfl⟩ := List.head?_eq_some_iff.1 hbrace
    obtain ⟨ds, rfl⟩ := h.head hR
    have hinside := h.tail hR (.inl (by decide))
    rcases h.next hinside with hnil | ⟨c, cs', ds', hcs, hds, -, -, -⟩
    · rw [readWordBoundary_nil hnil] at hread
      cases hread
    rw [readWordBoundary_name hcs] at hread
    split at hread
    · next hpart =>
        obtain ⟨⟨name, after⟩, hname, hread⟩ := Option.bind_eq_some_iff.1 hread
        obtain ⟨b, hb, heq⟩ := Option.map_eq_some_iff.1 hread
        cases heq
        obtain ⟨rest', hname', hrest⟩ := h.readBoundaryName hinside hname (Nat.lt_succ_self ds.length)
        refine ⟨rest', ?_, hrest⟩
        rw [readWordBoundary_name hds, if_pos hpart, hname', Option.bind_some, hb]
        rfl
    · next hpart =>
        cases hread
        exact ⟨'{' :: ds, by rw [readWordBoundary_name hds, if_neg hpart], hR⟩
  · rw [readWordBoundary_other hbrace] at hread
    cases hread
    have hhead := h.head?_iff (c := '{') hR (eq_zero_of_nil hn) ⟨by decide, by decide⟩
    exact ⟨ds, readWordBoundary_other fun hds => hbrace (hhead.1 hds), hR⟩

theorem readEscape (h : Tracks v n R) {t : Tree} (hR : R cs ds) (hread : readEscape v cs = some (t, rest))
    (hn : n ≤ rest.length) : ∃ rest', Regex.readEscape v ds = some (t, rest') ∧ R rest rest' := by
  cases cs with
  | nil => cases hread
  | cons c cs =>
      obtain ⟨ds, rfl⟩ := h.head hR
      suffices hescapes : ∃ rest', Escapes v c ds t rest' ∧ R rest rest' by
        obtain ⟨rest', hds, hrest⟩ := hescapes
        exact ⟨rest', hds.read, hrest⟩
      cases escapes_of_read hread with
      | code hc hread =>
          obtain ⟨rest', hread', hrest⟩ :=
            h.readCodePoint hc.digits_ne_zero (h.tail hR (.inl hc.not_structural)) hread
          exact ⟨rest', .code hc hread', hrest⟩
      | property hc hread =>
          obtain ⟨rest', hread', hrest⟩ := h.readProperty (h.tail hR (.inl hc.not_structural)) hread hn
          exact ⟨rest', .property hc hread', hrest⟩
      | boundary hread =>
          obtain ⟨rest', hread', hrest⟩ := h.readWordBoundary (h.tail hR (.inl (by decide))) hread hn
          exact ⟨rest', .boundary hread', hrest⟩
      | single hc hsingle => exact ⟨ds, .single hc hsingle ds, h.tail hR (.inr hn)⟩

open Item

theorem readOperator (h : Tracks v n R) {min : Nat} {max : Option Nat} {item : Item} (hR : R cs ds)
    (hread : readOperator min max cs = (item, rest)) (hn : n ≤ rest.length) :
    ∃ rest', Item.readOperator min max ds = (item, rest') ∧ R rest rest' := by
  by_cases hquestion : cs.head? = some '?'
  · obtain ⟨cs, rfl⟩ := List.head?_eq_some_iff.1 hquestion
    obtain ⟨ds, rfl⟩ := h.head hR
    cases hread
    exact ⟨ds, rfl, h.tail hR (.inl (by decide))⟩
  · have hother : Item.readOperator min max cs = (.operator min max true, cs) := by
      rw [Item.readOperator, readGreed_other hquestion]
    rw [hother] at hread
    cases hread
    have hhead := h.head?_iff (c := '?') hR (eq_zero_of_nil hn) ⟨by decide, by decide⟩
    exact ⟨ds, by rw [Item.readOperator, readGreed_other fun hds => hquestion (hhead.1 hds)], hR⟩

theorem isNoParen_of_isDigit (h : c.isDigit = true) : IsNoParen c := by
  constructor <;> rintro rfl <;> revert h <;> decide

theorem readDigits (h : Tracks v n R) {fuel fuel' : Nat} {value found : Option Nat} (hR : R cs ds)
    (hread : readDigits v fuel value cs = (found, rest)) (hn : rest = [] → n = 0)
    (hfuel : cs.length ≤ fuel) (hfuel' : ds.length ≤ fuel') :
    ∃ rest', Item.readDigits v fuel' value ds = (found, rest') ∧ R rest rest' := by
  have hstop : ∀ {ds : List Char} {value : Option Nat} {fuel fuel' : Nat}, R [] ds →
      Item.readDigits v fuel value [] = (found, rest) →
        ∃ rest', Item.readDigits v fuel' value ds = (found, rest') ∧ R rest rest' := by
    intro ds value fuel fuel' hR hread
    rw [readDigits_stop (by simp)] at hread
    cases hread
    refine ⟨ds, readDigits_stop (fun c hc => ?_) _ _, hR⟩
    exact Bool.eq_false_iff.2 fun hdigit => h.nil hR (hn rfl) c hc (isNoParen_of_isDigit hdigit)
  induction fuel generalizing fuel' value cs ds with
  | zero =>
      obtain rfl := List.eq_nil_of_length_eq_zero (Nat.le_zero.1 hfuel)
      exact hstop hR hread
  | succ fuel ih =>
      cases cs with
      | nil => exact hstop hR hread
      | cons c cs =>
          obtain ⟨ds, rfl⟩ := h.head hR
          cases hc : c.isDigit with
          | true =>
              obtain ⟨fuel', rfl⟩ := Nat.exists_eq_succ_of_ne_zero (Nat.ne_zero_of_lt hfuel')
              rw [readDigits_digit hc] at hread ⊢
              have hR := h.blanks (h.tail hR (.inl (isStructural_of_isDigit hc)))
              have hle := afterBlanks_length v cs
              have hle' := afterBlanks_length v ds
              rw [List.length_cons] at hfuel hfuel'
              exact ih hR hread (by omega) (by omega)
          | false =>
              rw [readDigits_stop (by simp [hc])] at hread
              cases hread
              exact ⟨c :: ds, readDigits_stop (by simp [hc]) _ _, hR⟩

theorem isNoParen_of_isWhiteSpace (h : Unicode.isWhiteSpace c = true) :
    IsNoParen c ∧ isStructural c = false := by
  refine ⟨?_, isStructural_of_test h (by decide)⟩
  constructor <;> rintro rfl <;> revert h <;> decide

theorem readCount (h : Tracks v n R) {k : Nat} (hR : R cs ds) (hread : readCount v cs = some (k, rest))
    (hn : rest = [] → n = 0) : ∃ rest', Item.readCount v ds = some (k, rest') ∧ R rest rest' := by
  obtain ⟨after, hdigits, hlt, rfl⟩ := readCount_eq_some.1 hread
  have hspace : after.dropWhile Unicode.isWhiteSpace = [] → n = 0 := fun hnil => by
    rw [hnil] at hn
    exact hn (afterBlanks_nil v)
  have hafter : after = [] → n = 0 := fun hnil => hspace (by rw [hnil]; rfl)
  have hcs : cs.dropWhile Unicode.isWhiteSpace = [] → n = 0 := fun hnil => hafter (by
    rw [hnil, readDigits_stop (by simp)] at hdigits
    exact (Prod.mk.inj hdigits).2.symm)
  have hR := h.dropWhile hR (fun c => isNoParen_of_isWhiteSpace) hcs
  obtain ⟨after', hdigits', hR⟩ := h.readDigits hR hdigits hafter (Nat.le_refl _) (Nat.le_refl _)
  have hR := h.blanks (h.dropWhile hR (fun c => isNoParen_of_isWhiteSpace) hspace)
  exact ⟨_, readCount_eq_some.2 ⟨after', hdigits', hlt, rfl⟩, hR⟩

theorem takeSign (h : Tracks v n R) (hR : R (c :: cs) ds) (hc : isStructural c = false) :
    ∃ ds', ds = c :: ds' ∧ R (afterBlanks v cs) (afterBlanks v ds') := by
  obtain ⟨ds, rfl⟩ := h.head hR
  exact ⟨ds, rfl, h.blanks (h.tail hR (.inl hc))⟩

theorem readCounted (h : Tracks v n R) {item : Item} (hR : R cs ds)
    (hread : readCounted v cs = some (item, rest)) (hn : n ≤ rest.length) :
    ∃ rest', Item.readCounted v ds = some (item, rest') ∧ R rest rest' := by
  have hbrace : isStructural '}' = false ∧ isStructural ',' = false := by decide
  rcases readCounted_eq_some hread with ⟨min, after, hmin, hop⟩ | ⟨min, between, after, hmin, hclose, hop⟩ |
    ⟨min, between, max, after, hmin, hopen, hmax, hle, hop⟩
  all_goals obtain ⟨more, hmin', hmore⟩ := h.readCount (h.blanks hR) hmin (by simp)
  · obtain ⟨after', rfl, hafter⟩ := h.takeSign hmore hbrace.1
    obtain ⟨rest', hop', hrest⟩ := h.readOperator hafter hop hn
    exact ⟨rest', by rw [readCounted_exact hmin', hop'], hrest⟩
  · obtain ⟨between', rfl, hbetween⟩ := h.takeSign hmore hbrace.2
    rw [hclose] at hbetween
    obtain ⟨after', hclose', hafter⟩ := h.takeSign hbetween hbrace.1
    obtain ⟨rest', hop', hrest⟩ := h.readOperator hafter hop hn
    exact ⟨rest', by rw [readCounted_least hmin' hclose', hop'], hrest⟩
  · obtain ⟨between', rfl, hbetween⟩ := h.takeSign hmore hbrace.2
    have hne : afterBlanks v between = [] → n = 0 := by
      intro hnil
      rw [hnil] at hmax
      cases hmax
    have hopen' : (afterBlanks v between').head? ≠ some '}' :=
      mt (h.head?_iff hbetween hne ⟨by decide, by decide⟩).1 hopen
    obtain ⟨last, hmax', hlast⟩ := h.readCount hbetween hmax (by simp)
    obtain ⟨after', rfl, hafter⟩ := h.takeSign hlast hbrace.1
    obtain ⟨rest', hop', hrest⟩ := h.readOperator hafter hop hn
    refine ⟨rest', ?_, hrest⟩
    rw [readCounted_range hmin' hopen', hmax', Option.bind_some, if_pos ⟨rfl, hle⟩, ← hop']
    rfl

theorem append (h : Tracks v n R) {p : List Char} (hp : Ordinary p ∨ n ≤ cs.length) (hR : R (p ++ cs) ds) :
    ∃ ds', ds = p ++ ds' ∧ R cs ds' := by
  induction p generalizing ds with
  | nil => exact ⟨ds, rfl, hR⟩
  | cons c p ih =>
      obtain ⟨ds, rfl⟩ := h.head hR
      have hlen : n ≤ cs.length → n ≤ (p ++ cs).length := fun hn => by
        rw [List.length_append]
        omega
      obtain ⟨ds', rfl, hrest⟩ := ih (hp.imp_left fun hp => (ordinary_cons.1 hp).2)
        (h.tail hR (hp.imp (fun hp => (ordinary_cons.1 hp).1) hlen))
      exact ⟨ds', rfl, hrest⟩

/-- What stands in the second text has been taken from the first, or goes on where the first ends. -/
theorem split (h : Tracks v n R) {p : List Char} (hp : Ordinary p) (hR : R cs (p ++ ds)) :
    cs <+: p ∨ ∃ cs', cs = p ++ cs' ∧ R cs' ds := by
  induction p generalizing cs with
  | nil => exact .inr ⟨cs, rfl, hR⟩
  | cons c p ih =>
      obtain ⟨hc, hp⟩ := ordinary_cons.1 hp
      cases cs with
      | nil => exact .inl List.nil_prefix
      | cons d cs =>
          obtain ⟨ds', heq⟩ := h.head hR
          obtain ⟨rfl, -⟩ := List.cons.inj heq
          rcases ih hp (h.tail hR (.inl hc)) with hstart | ⟨cs', rfl, hrest⟩
          · exact .inl (List.cons_prefix_cons.2 ⟨rfl, hstart⟩)
          · exact .inr ⟨cs', rfl, hrest⟩

theorem readFlags (h : Tracks v n R) {negated : Bool} {changes result : List FlagChange} {finish : Char}
    (hR : R cs ds) (hread : readFlags negated changes cs = some (result, finish, rest)) :
    ∃ rest', Item.readFlags negated changes ds = some (result, finish, rest') ∧ R rest rest' := by
  induction cs generalizing negated changes ds with
  | nil => cases hread
  | cons c cs ih =>
      obtain ⟨ds, rfl⟩ := h.head hR
      by_cases hend : c = ':' ∨ c = ')'
      · have hc : isStructural c = false := by rcases hend with rfl | rfl <;> decide
        rw [readFlags_finish hend] at hread
        cases hread
        exact ⟨ds, readFlags_finish hend _ _ _, h.tail hR (.inl hc)⟩
      by_cases hhyphen : c = '-'
      · subst hhyphen
        have hR := h.tail hR (.inl (by decide))
        cases cs with
        | nil =>
            rw [readFlags_alone] at hread
            cases hread
        | cons d cs =>
            obtain ⟨ds, rfl⟩ := h.head hR
            rw [readFlags_hyphen] at hread ⊢
            split at hread
            · cases hread
            · next hok =>
                rw [if_neg hok]
                exact ih hR hread
      · rw [readFlags_letter hend hhyphen] at hread ⊢
        obtain ⟨flag, hflag, hread⟩ := Option.bind_eq_some_iff.1 hread
        rw [hflag, Option.bind_some]
        split at hread
        · cases hread
        · next hnew =>
            rw [if_neg hnew]
            exact ih (h.tail hR (.inl (isStructural_of_ofLetter? hflag))) hread

theorem readScope (h : Tracks v n R) {item : Item} (hR : R cs ds) (hread : readScope cs = some (item, rest)) :
    ∃ rest', Item.readScope ds = some (item, rest') ∧ R rest rest' := by
  obtain ⟨⟨changes, finish, after⟩, hflags, hread⟩ := Option.bind_eq_some_iff.1 hread
  obtain ⟨after', hflags', hR⟩ := h.readFlags hR hflags
  rw [Item.readScope, hflags', Option.bind_some]
  dsimp only at hread ⊢
  split at hread
  · next hcolon =>
      cases hread
      exact ⟨after', if_pos hcolon, hR⟩
  · next hcolon =>
      split at hread
      · cases hread
      · next hempty =>
          cases hread
          exact ⟨after', by rw [if_neg hcolon, if_neg hempty], hR⟩

theorem readOpening (h : Tracks v n R) {item : Item} (hR : R cs ds)
    (hread : readOpening v cs = some (item, rest)) (hn : n ≤ rest.length) :
    ∃ rest', Item.readOpening v ds = some (item, rest') ∧ R rest rest' := by
  rw [readOpening_blanks] at hread ⊢
  have hR := h.blanks hR
  generalize afterBlanks v cs = cs at hread hR
  generalize afterBlanks v ds = ds at hR ⊢
  rcases opening_cases cs with hplain | ⟨style, after, rfl⟩ | ⟨after, rfl, hplain, hwithP⟩
  · rw [readOpening_plain hplain] at hread
    cases hread
    have hhead := h.head?_iff (c := '?') hR (eq_zero_of_nil hn) ⟨by decide, by decide⟩
    exact ⟨ds, readOpening_plain (mt hhead.1 hplain), hR⟩
  · rw [readOpening_lead] at hread
    obtain ⟨⟨name, rest⟩, hname, heq⟩ := Option.map_eq_some_iff.1 hread
    cases heq
    obtain ⟨ns, rfl, rfl, hclose, hisName⟩ := readName_eq_some hname
    have hsplit : lead style ++ (ns ++ '>' :: rest) = (lead style ++ ns ++ ['>']) ++ rest := by simp
    rw [hsplit] at hR
    obtain ⟨rest', rfl, hrest⟩ := h.append (.inr hn) hR
    have hsplit' : (lead style ++ ns ++ ['>']) ++ rest' = lead style ++ (ns ++ '>' :: rest') := by simp
    refine ⟨rest', ?_, hrest⟩
    rw [hsplit', readOpening_lead, readName_of_isName hclose hisName]
    rfl
  · rw [readOpening_scope hplain hwithP] at hread
    obtain ⟨ds, rfl⟩ := h.head hR
    have hR := h.tail hR (.inl (by decide))
    obtain ⟨rest', hread', hrest⟩ := h.readScope hR hread
    refine ⟨rest', ?_, hrest⟩
    cases after with
    | nil => cases hread
    | cons c after =>
        obtain ⟨ds, rfl⟩ := h.head hR
        have hnoP : ¬['P', '<'] <+: c :: ds := by
          rintro ⟨more, hmore⟩
          obtain ⟨rfl, -⟩ := List.cons.inj hmore
          -- the letter is no flag
          rw [Item.readScope, readFlags_letter (by decide) (by decide)] at hread
          cases hread
        have hnoAngle : (c :: ds).head? ≠ some '<' := hplain
        rw [readOpening_scope hnoAngle hnoP, hread']

end Tracks

end Patchwork.Regex
