import Patchwork.Proofs.Regex.Readers

namespace Patchwork.Regex

open Token

namespace Item

variable {v : Bool} {n min : Nat} {max : Option Nat} {item : Item} {cs rest : List Char}

theorem readGreed_question (cs : List Char) : readGreed ('?' :: cs) = (false, cs) := rfl

theorem readGreed_other (hcs : cs.head? ≠ some '?') : readGreed cs = (true, cs) := by
  unfold readGreed
  split
  · next heq => simp at hcs
  · rfl

theorem exists_of_readOperator (h : readOperator min max cs = (item, rest)) :
    ∃ greedy, item = .operator min max greedy :=
  ⟨_, (Prod.mk.inj h).1.symm⟩

theorem leaves_readOperator (h : readOperator min max cs = (item, rest)) : Leaves cs rest := by
  obtain rfl : (readGreed cs).2 = rest := (Prod.mk.inj h).2
  by_cases hquestion : cs.head? = some '?'
  · obtain ⟨cs, rfl⟩ := List.head?_eq_some_iff.1 hquestion
    rw [readGreed_question]
    exact (Leaves.refl cs).cons (by decide)
  · rw [readGreed_other hquestion]
    exact .refl _

theorem readDigits_stop (hcs : ∀ c, cs.head? = some c → c.isDigit = false) (fuel : Nat) (value : Option Nat) :
    readDigits v fuel value cs = (value, cs) := by
  cases fuel with
  | zero => rfl
  | succ fuel =>
      cases cs with
      | nil => rfl
      | cons c cs => simp [readDigits, hcs c rfl]

theorem readDigits_digit {c : Char} (hc : c.isDigit = true) (fuel : Nat) (value : Option Nat) (cs : List Char) :
    readDigits v (fuel + 1) value (c :: cs) =
      readDigits v fuel (some (10 * value.getD 0 + (c.toNat - '0'.toNat))) (afterBlanks v cs) := by
  rw [readDigits, if_pos hc]

theorem leaves_readDigits {fuel : Nat} {value found : Option Nat}
    (h : readDigits false fuel value cs = (found, rest)) : Leaves cs rest := by
  induction fuel generalizing value cs with
  | zero =>
      cases h
      exact .refl _
  | succ fuel ih =>
      cases cs with
      | nil =>
          cases h
          exact .refl _
      | cons c cs =>
          cases hc : c.isDigit with
          | true =>
              rw [readDigits_digit hc] at h
              exact (ih h).cons (isStructural_of_isDigit hc)
          | false =>
              rw [readDigits_stop (by simp [hc])] at h
              cases h
              exact .refl _

theorem readCount_eq_some : readCount v cs = some (n, rest) ↔
    ∃ after, readDigits v (cs.dropWhile Unicode.isWhiteSpace).length none
        (cs.dropWhile Unicode.isWhiteSpace) = (some n, after) ∧ n < countBound ∧
      rest = afterBlanks v (after.dropWhile Unicode.isWhiteSpace) := by
  have hread : readCount v cs = (readDigits v (cs.dropWhile Unicode.isWhiteSpace).length none
      (cs.dropWhile Unicode.isWhiteSpace)).1.bind fun m =>
        if m < countBound then some (m, afterBlanks v ((readDigits v
          (cs.dropWhile Unicode.isWhiteSpace).length none
            (cs.dropWhile Unicode.isWhiteSpace)).2.dropWhile Unicode.isWhiteSpace))
        else none := rfl
  rw [hread]
  rcases readDigits v (cs.dropWhile Unicode.isWhiteSpace).length none
    (cs.dropWhile Unicode.isWhiteSpace) with ⟨value, after⟩
  constructor
  · intro h
    obtain ⟨m, hvalue, h⟩ := Option.bind_eq_some_iff.1 h
    obtain rfl : value = some m := hvalue
    split at h
    · next hlt =>
        cases h
        exact ⟨after, rfl, hlt, rfl⟩
    · cases h
  · rintro ⟨after', heq, hlt, rfl⟩
    cases heq
    exact if_pos hlt

theorem leaves_readCount (h : readCount false cs = some (n, rest)) : Leaves cs rest := by
  obtain ⟨after, hdigits, -, rfl⟩ := readCount_eq_some.1 h
  have hspace : ['\\', '[', '(', '$'].all (!Unicode.isWhiteSpace ·) = true := by decide
  exact ((Leaves.dropWhile hspace cs).trans (leaves_readDigits hdigits)).trans (.dropWhile hspace after)

variable {between after : List Char}

theorem readCounted_exact (hmin : readCount v (afterBlanks v cs) = some (min, '}' :: after)) :
    readCounted v cs = some (readOperator min (some min) (afterBlanks v after)) := by
  simp only [readCounted, hmin, Option.bind_eq_bind, Option.bind_some]

theorem readCounted_least (hmin : readCount v (afterBlanks v cs) = some (min, ',' :: between))
    (hbrace : afterBlanks v between = '}' :: after) :
    readCounted v cs = some (readOperator min none (afterBlanks v after)) := by
  simp only [readCounted, hmin, hbrace, Option.bind_eq_bind, Option.bind_some]

theorem readCounted_range (hmin : readCount v (afterBlanks v cs) = some (min, ',' :: between))
    (hbrace : (afterBlanks v between).head? ≠ some '}') :
    readCounted v cs = (readCount v (afterBlanks v between)).bind fun p =>
      if p.2.head? = some '}' ∧ min ≤ p.1 then
        some (readOperator min (some p.1) (afterBlanks v p.2.tail))
      else none := by
  simp only [readCounted, hmin, Option.bind_eq_bind, Option.bind_some]
  split
  · next heq => simp [heq] at hbrace
  · refine congrArg _ (funext fun p => ?_)
    obtain ⟨max, rest⟩ := p
    cases rest with
    | nil => rfl
    | cons d ds =>
        by_cases hd : d = '}'
        · subst hd
          simp
        · simp [hd]

theorem readCounted_eq_some (h : readCounted v cs = some (item, rest)) :
    (∃ min after, readCount v (afterBlanks v cs) = some (min, '}' :: after) ∧
        readOperator min (some min) (afterBlanks v after) = (item, rest)) ∨
      (∃ min between after, readCount v (afterBlanks v cs) = some (min, ',' :: between) ∧
        afterBlanks v between = '}' :: after ∧ readOperator min none (afterBlanks v after) = (item, rest)) ∨
      ∃ min between max after, readCount v (afterBlanks v cs) = some (min, ',' :: between) ∧
        (afterBlanks v between).head? ≠ some '}' ∧
        readCount v (afterBlanks v between) = some (max, '}' :: after) ∧ min ≤ max ∧
        readOperator min (some max) (afterBlanks v after) = (item, rest) := by
  cases hmin : readCount v (afterBlanks v cs) with
  | none => simp [readCounted, hmin] at h
  | some p =>
      obtain ⟨min, after⟩ := p
      cases after with
      | nil => simp [readCounted, hmin] at h
      | cons c after =>
          by_cases hbrace : c = '}'
          · subst hbrace
            rw [readCounted_exact hmin] at h
            exact .inl ⟨min, after, rfl, Option.some.inj h⟩
          by_cases hcomma : c = ','
          · subst hcomma
            by_cases hbetween : (afterBlanks v after).head? = some '}'
            · obtain ⟨last, hlast⟩ := List.head?_eq_some_iff.1 hbetween
              rw [readCounted_least hmin hlast] at h
              exact .inr (.inl ⟨min, after, last, rfl, hlast, Option.some.inj h⟩)
            · rw [readCounted_range hmin hbetween] at h
              obtain ⟨⟨max, last⟩, hmax, h⟩ := Option.bind_eq_some_iff.1 h
              split at h
              · next hok =>
                  obtain ⟨last, rfl⟩ := List.head?_eq_some_iff.1 hok.1
                  exact .inr (.inr ⟨min, after, max, last, rfl, hbetween, hmax, hok.2, Option.some.inj h⟩)
              · cases h
          · simp [readCounted, hmin, hbrace, hcomma] at h

theorem exists_of_readCounted (h : readCounted v cs = some (item, rest)) :
    ∃ min max greedy, item = .operator min max greedy := by
  rcases readCounted_eq_some h with ⟨min, _, -, hop⟩ | ⟨min, _, _, -, -, hop⟩ |
    ⟨min, _, max, _, -, -, -, -, hop⟩
  · exact ⟨min, some min, exists_of_readOperator hop⟩
  · exact ⟨min, none, exists_of_readOperator hop⟩
  · exact ⟨min, some max, exists_of_readOperator hop⟩

theorem leaves_readCounted (h : readCounted false cs = some (item, rest)) : Leaves cs rest := by
  rcases readCounted_eq_some h with ⟨min, after, hmin, hop⟩ | ⟨min, between, after, hmin, hbrace, hop⟩ |
    ⟨min, between, max, after, hmin, -, hmax, -, hop⟩
  all_goals
    have hleaves := leaves_readCount hmin
    have hop := leaves_readOperator hop
  · exact hleaves.trans (hop.cons (by decide))
  · obtain rfl : between = '}' :: after := hbrace
    exact hleaves.trans ((hop.cons (by decide)).cons (by decide))
  · exact hleaves.trans (((leaves_readCount hmax).trans (hop.cons (by decide))).cons (by decide))

end Item

end Patchwork.Regex
