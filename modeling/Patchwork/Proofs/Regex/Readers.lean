import Patchwork.Proofs.Regex.Property
import Patchwork.Regex.Item

namespace Patchwork.Regex

open Token

def Leaves (cs rest : List Char) : Prop := ∃ p, cs = p ++ rest ∧ Ordinary p

@[simp]
theorem afterBlanks_false (cs : List Char) : afterBlanks false cs = cs := rfl

theorem afterBlanks_nil (v : Bool) : afterBlanks v [] = [] := by
  cases v <;> rfl

theorem ordinary_nil : Ordinary [] := by simp [Ordinary]

theorem ordinary_cons {c : Char} {cs : List Char} :
    Ordinary (c :: cs) ↔ isStructural c = false ∧ Ordinary cs := List.forall_mem_cons

theorem ordinary_append {xs ys : List Char} : Ordinary (xs ++ ys) ↔ Ordinary xs ∧ Ordinary ys :=
  List.forall_mem_append

theorem Leaves.refl (cs : List Char) : Leaves cs cs := ⟨[], rfl, ordinary_nil⟩

theorem Leaves.cons {c : Char} {cs rest : List Char} (hc : isStructural c = false)
    (h : Leaves cs rest) : Leaves (c :: cs) rest := by
  obtain ⟨p, rfl, hp⟩ := h
  exact ⟨c :: p, rfl, ordinary_cons.2 ⟨hc, hp⟩⟩

theorem Leaves.trans {cs ds rest : List Char} (h : Leaves cs ds) (h' : Leaves ds rest) :
    Leaves cs rest := by
  obtain ⟨p, rfl, hp⟩ := h
  obtain ⟨q, rfl, hq⟩ := h'
  exact ⟨p ++ q, by simp, ordinary_append.2 ⟨hp, hq⟩⟩

theorem Leaves.dropWhile {test : Char → Bool} (hno : ['\\', '[', '(', '$'].all (!test ·) = true)
    (cs : List Char) : Leaves cs (cs.dropWhile test) := by
  refine ⟨cs.takeWhile test, List.takeWhile_append_dropWhile.symm, fun c hc => ?_⟩
  have hall : ∀ x ∈ cs.takeWhile test, test x = true := List.all_eq_true.1 List.all_takeWhile
  exact isStructural_of_test (hall c hc) hno

variable {v : Bool} {c : Char} {cs rest : List Char}

theorem isStructural_of_hexDigit? {n : Nat} (h : hexDigit? c = some n) : isStructural c = false :=
  isStructural_of_test (p := fun c => (hexDigit? c).isSome) (by simp [h]) (by decide)

theorem leaves_readHexDigits {n value code : Nat} (h : readHexDigits false n value cs = some (code, rest)) :
    Leaves cs rest := by
  induction n generalizing value cs with
  | zero =>
      cases h
      exact .refl _
  | succ n ih =>
      cases cs with
      | nil => cases h
      | cons c cs =>
          obtain ⟨digit, hdigit, h⟩ := Option.bind_eq_some_iff.1 h
          exact (ih h).cons (isStructural_of_hexDigit? hdigit)

theorem readHexBrace_nil (hcs : afterBlanks v cs = []) (fuel : Nat) (value : Option Nat) :
    readHexBrace v fuel value cs = none := by
  cases fuel with
  | zero => rfl
  | succ fuel => simp only [readHexBrace, hcs]

theorem readHexBrace_close (hcs : afterBlanks v cs = '}' :: rest) (fuel : Nat) (value : Option Nat) :
    readHexBrace v (fuel + 1) value cs = value.map fun n => (n, afterBlanks v rest) := by
  simp only [readHexBrace, hcs]
  cases value <;> rfl

theorem readHexBrace_cons (hcs : afterBlanks v cs = c :: rest) (hc : c ≠ '}') (fuel : Nat)
    (value : Option Nat) : readHexBrace v (fuel + 1) value cs = (hexDigit? c).bind fun digit =>
      readHexBrace v fuel (some (16 * value.getD 0 + digit)) rest := by
  simp only [readHexBrace, hcs]
  rfl

theorem leaves_readHexBrace {fuel code : Nat} {value : Option Nat}
    (h : readHexBrace false fuel value cs = some (code, rest)) : Leaves cs rest := by
  induction fuel generalizing value cs with
  | zero => cases h
  | succ fuel ih =>
      cases cs with
      | nil => cases h
      | cons c cs =>
          by_cases hc : c = '}'
          · subst hc
            rw [readHexBrace_close rfl] at h
            obtain ⟨n, -, heq⟩ := Option.map_eq_some_iff.1 h
            cases heq
            exact (Leaves.refl _).cons (by decide)
          · rw [readHexBrace_cons rfl hc] at h
            obtain ⟨digit, hdigit, h⟩ := Option.bind_eq_some_iff.1 h
            exact (ih h).cons (isStructural_of_hexDigit? hdigit)

theorem readCodePoint_brace (hcs : afterBlanks v cs = '{' :: rest) (digits : Nat) :
    readCodePoint v digits cs = (readHexBrace v (rest.length + 1) none rest).bind fun p =>
      (charOfCode? p.1).map fun char => (⟨char, false⟩, p.2) := by
  simp only [readCodePoint, hcs]
  refine congrArg _ (funext fun p => ?_)
  cases charOfCode? p.1 <;> rfl

theorem readCodePoint_digits (hcs : (afterBlanks v cs).head? ≠ some '{') (digits : Nat) :
    readCodePoint v digits cs = (readHexDigits v digits 0 (afterBlanks v cs)).bind fun p =>
      (charOfCode? p.1).map fun char => (⟨char, digits = 2⟩, p.2) := by
  unfold readCodePoint
  split
  · next heq => simp [heq] at hcs
  · refine congrArg _ (funext fun p => ?_)
    obtain ⟨n, rest⟩ := p
    cases hcode : charOfCode? n <;> simp [hcode]

theorem leaves_readCodePoint {digits : Nat} {l : Literal}
    (h : readCodePoint false digits cs = some (l, rest)) : Leaves cs rest := by
  by_cases hbrace : (afterBlanks false cs).head? = some '{'
  · obtain ⟨inside, hcs⟩ := List.head?_eq_some_iff.1 hbrace
    obtain rfl : cs = '{' :: inside := hcs
    rw [readCodePoint_brace rfl] at h
    obtain ⟨p, hread, h⟩ := Option.bind_eq_some_iff.1 h
    obtain ⟨char, -, heq⟩ := Option.map_eq_some_iff.1 h
    cases heq
    exact (leaves_readHexBrace hread).cons (by decide)
  · rw [readCodePoint_digits hbrace] at h
    obtain ⟨p, hread, h⟩ := Option.bind_eq_some_iff.1 h
    obtain ⟨char, -, heq⟩ := Option.map_eq_some_iff.1 h
    cases heq
    exact leaves_readHexDigits hread

theorem readBraced_nil (hcs : afterBlanks v cs = []) (fuel : Nat) (taken : List Char) :
    readBraced v fuel taken cs = none := by
  cases fuel with
  | zero => rfl
  | succ fuel => simp only [readBraced, hcs]

theorem readBraced_close (hcs : afterBlanks v cs = '}' :: rest) (fuel : Nat) (taken : List Char) :
    readBraced v (fuel + 1) taken cs = some (taken.reverse, rest) := by
  simp only [readBraced, hcs]

theorem readBraced_cons (hcs : afterBlanks v cs = c :: rest) (hc : c ≠ '}') (fuel : Nat)
    (taken : List Char) : readBraced v (fuel + 1) taken cs = readBraced v fuel (c :: taken) rest := by
  simp only [readBraced, hcs]

theorem exists_of_readBraced {fuel : Nat} {taken name : List Char}
    (h : readBraced false fuel taken cs = some (name, rest)) :
    ∃ inside, cs = inside ++ '}' :: rest ∧ name = taken.reverse ++ inside := by
  induction fuel generalizing taken cs with
  | zero => cases h
  | succ fuel ih =>
      cases cs with
      | nil => cases h
      | cons c cs =>
          by_cases hc : c = '}'
          · subst hc
            cases h
            exact ⟨[], rfl, (List.append_nil _).symm⟩
          · rw [readBraced_cons rfl hc] at h
            obtain ⟨inside, rfl, rfl⟩ := ih h
            exact ⟨c :: inside, rfl, by simp⟩

theorem splitAround?_append {separator before after : List Char}
    (h : splitAround? separator cs = some (before, after)) : cs = before ++ separator ++ after := by
  induction cs generalizing before with
  | nil => cases h
  | cons c cs ih =>
      simp only [splitAround?] at h
      split at h
      · next hsplit =>
          cases h
          obtain ⟨more, hmore⟩ := List.isPrefixOf_iff_prefix.1 hsplit
          rw [← hmore, List.drop_left]
          rfl
      · obtain ⟨⟨b, a⟩, hsplit, heq⟩ := Option.map_eq_some_iff.1 h
        cases heq
        rw [ih hsplit]
        rfl

theorem ordinary_of_ofBraced (h : (PropertyQuery.ofBraced cs).2.set?.isSome) : Ordinary cs := by
  have hvalued : ∀ {separator : List Char} {parts : List Char × List Char}, Ordinary separator →
      splitAround? separator cs = some parts →
      (PropertyQuery.valued (String.ofList parts.1) (String.ofList parts.2)).set?.isSome → Ordinary cs := by
    intro separator parts hseparator hsplit hset
    obtain ⟨s, hs⟩ := Option.isSome_iff_exists.1 hset
    obtain ⟨hname, hvalue⟩ := Unicode.Property.ordinary_of_valued? hs
    rw [String.toList_ofList] at hname hvalue
    rw [splitAround?_append hsplit]
    exact ordinary_append.2 ⟨ordinary_append.2 ⟨hname, hseparator⟩, hvalue⟩
  unfold PropertyQuery.ofBraced at h
  dsimp only at h
  split at h
  · next parts hsplit => exact hvalued (by decide) hsplit h
  · split at h
    · next parts hsplit =>
        rcases Option.or_eq_some_iff.1 hsplit with hcolon | ⟨-, hequals⟩
        · exact hvalued (by decide) hcolon h
        · exact hvalued (by decide) hequals h
    · obtain ⟨s, hs⟩ := Option.isSome_iff_exists.1 h
      simpa using Unicode.Property.ordinary_of_named? hs

def ClassSet.Answered : ClassSet → Prop
  | .property _ query => query.set?.isSome
  | _ => True

def Tree.Answered : Tree → Prop
  | .class s => s.Answered
  | _ => True

def ClassSet.ofBraced (negated : Bool) (name : List Char) : ClassSet :=
  .property (negated != (PropertyQuery.ofBraced name).1) (PropertyQuery.ofBraced name).2

theorem readProperty_nil (hcs : afterBlanks v cs = []) (negated : Bool) : readProperty v negated cs = none := by
  simp only [readProperty, hcs]

theorem readProperty_backslash (hcs : afterBlanks v cs = '\\' :: rest) (negated : Bool) :
    readProperty v negated cs = none := by
  simp only [readProperty, hcs]

theorem readProperty_brace (hcs : afterBlanks v cs = '{' :: rest) (negated : Bool) :
    readProperty v negated cs = (readBraced v (rest.length + 1) [] rest).map fun p =>
      (.ofBraced negated p.1, p.2) := by
  simp only [readProperty, hcs]
  cases readBraced v (rest.length + 1) [] rest <;> rfl

theorem readProperty_letter (hcs : afterBlanks v cs = c :: rest) (hc : c ≠ '{' ∧ c ≠ '\\') (negated : Bool) :
    readProperty v negated cs =
      some (.property negated (.named (String.ofList [c])), afterBlanks v rest) := by
  unfold readProperty
  rw [hcs]
  split
  · next heq => cases heq
  · next heq => exact absurd (List.cons.inj heq).1 hc.2
  · next heq => exact absurd (List.cons.inj heq).1 hc.1
  · next heq =>
      obtain ⟨rfl, rfl⟩ := List.cons.inj heq
      rfl

theorem leaves_readProperty {negated : Bool} {s : ClassSet} (h : readProperty false negated cs = some (s, rest))
    (hanswered : s.Answered) : Leaves cs rest := by
  cases cs with
  | nil => cases h
  | cons c cs =>
      by_cases hbrace : c = '{'
      · subst hbrace
        rw [readProperty_brace rfl] at h
        obtain ⟨⟨name, after⟩, hname, heq⟩ := Option.map_eq_some_iff.1 h
        cases heq
        obtain ⟨inside, rfl, hinside⟩ := exists_of_readBraced hname
        obtain rfl : name = inside := hinside
        have hord : Ordinary name := ordinary_of_ofBraced hanswered
        refine ⟨'{' :: (name ++ ['}']), by simp, ?_⟩
        exact ordinary_cons.2 ⟨by decide, ordinary_append.2 ⟨hord, by decide⟩⟩
      · by_cases hbackslash : c = '\\'
        · subst hbackslash
          cases h
        · rw [readProperty_letter rfl ⟨hbrace, hbackslash⟩] at h
          cases h
          obtain ⟨t, ht⟩ := Option.isSome_iff_exists.1 hanswered
          have hname := Unicode.Property.ordinary_of_named? ht
          rw [String.toList_ofList] at hname
          exact ⟨[c], rfl, hname⟩

theorem isStructural_of_boundaryName (h : isBoundaryNamePart c = true) : isStructural c = false :=
  isStructural_of_test h (by decide)

theorem readBoundaryName_nil (hcs : afterBlanks v cs = []) (fuel : Nat) (taken : List Char) :
    readBoundaryName v fuel taken cs = none := by
  cases fuel with
  | zero => rfl
  | succ fuel => simp only [readBoundaryName, hcs]

theorem readBoundaryName_close (hcs : afterBlanks v cs = '}' :: rest) (fuel : Nat) (taken : List Char) :
    readBoundaryName v (fuel + 1) taken cs = some (taken.reverse, rest) := by
  simp only [readBoundaryName, hcs]

theorem readBoundaryName_cons (hcs : afterBlanks v cs = c :: rest) (hc : c ≠ '}') (fuel : Nat)
    (taken : List Char) : readBoundaryName v (fuel + 1) taken cs =
      if isBoundaryNamePart c then readBoundaryName v fuel (c :: taken) rest else none := by
  simp only [readBoundaryName, hcs]

theorem leaves_readBoundaryName {fuel : Nat} {taken name : List Char}
    (h : readBoundaryName false fuel taken cs = some (name, rest)) : Leaves cs rest := by
  induction fuel generalizing taken cs with
  | zero => cases h
  | succ fuel ih =>
      cases cs with
      | nil => cases h
      | cons c cs =>
          by_cases hc : c = '}'
          · subst hc
            cases h
            exact (Leaves.refl _).cons (by decide)
          · rw [readBoundaryName_cons rfl hc] at h
            split at h
            · next hpart => exact (ih h).cons (isStructural_of_boundaryName hpart)
            · cases h

theorem readWordBoundary_other (hcs : cs.head? ≠ some '{') :
    readWordBoundary v cs = some (.wordBoundary, cs) := by
  unfold readWordBoundary
  split
  · next heq => simp at hcs
  · rfl

theorem readWordBoundary_nil (hrest : afterBlanks v rest = []) : readWordBoundary v ('{' :: rest) = none := by
  simp only [readWordBoundary, hrest]

theorem readWordBoundary_name {inside : List Char} (hrest : afterBlanks v rest = c :: inside) :
    readWordBoundary v ('{' :: rest) =
      if isBoundaryNamePart c then (readBoundaryName v (rest.length + 1) [] rest).bind fun p =>
        (Assertion.ofBoundaryName? p.1).map fun a => (a, p.2)
      else some (.wordBoundary, '{' :: rest) := by
  simp only [readWordBoundary, hrest]
  split
  · refine congrArg _ (funext fun p => ?_)
    cases Assertion.ofBoundaryName? p.1 <;> rfl
  · rfl

theorem leaves_readWordBoundary {a : Assertion} (h : readWordBoundary false cs = some (a, rest)) :
    Leaves cs rest := by
  by_cases hbrace : cs.head? = some '{'
  · obtain ⟨inside, rfl⟩ := List.head?_eq_some_iff.1 hbrace
    cases inside with
    | nil => cases h
    | cons c inside =>
        rw [readWordBoundary_name rfl] at h
        split at h
        · obtain ⟨p, hname, h⟩ := Option.bind_eq_some_iff.1 h
          obtain ⟨b, -, heq⟩ := Option.map_eq_some_iff.1 h
          cases heq
          exact (leaves_readBoundaryName hname).cons (by decide)
        · cases h
          exact .refl _
  · rw [readWordBoundary_other hbrace] at h
    cases h
    exact .refl _

/-- The letters that begin a code point, with the number of digits that it has without braces. -/
inductive CodeLetter : Char → Nat → Prop where
  | byte : CodeLetter 'x' 2
  | short : CodeLetter 'u' 4
  | long : CodeLetter 'U' 8

inductive PropertyLetter : Char → Bool → Prop where
  | has : PropertyLetter 'p' false
  | lacks : PropertyLetter 'P' true

def escapeLetters : List Char := ['x', 'u', 'U', 'p', 'P', 'b']

def singleEscape? (c : Char) : Option Tree :=
  if isEscapable c then some (.literal ⟨c, false⟩)
  else match letterClass? c, controlChar? c, simpleAssertion? c with
    | some s, _, _ => some (.class s)
    | none, some control, _ => some (.literal ⟨control, false⟩)
    | none, none, some a => some (.assertion a)
    | none, none, none => none

inductive Escapes (v : Bool) : Char → List Char → Tree → List Char → Prop where
  | code {c : Char} {digits : Nat} {cs rest : List Char} {l : Literal} (hc : CodeLetter c digits)
      (h : readCodePoint v digits cs = some (l, rest)) : Escapes v c cs (.literal l) rest
  | property {c : Char} {negated : Bool} {cs rest : List Char} {s : ClassSet} (hc : PropertyLetter c negated)
      (h : readProperty v negated cs = some (s, rest)) : Escapes v c cs (.class s) rest
  | boundary {cs rest : List Char} {a : Assertion} (h : readWordBoundary v cs = some (a, rest)) :
      Escapes v 'b' cs (.assertion a) rest
  | single {c : Char} {t : Tree} (hc : c ∉ escapeLetters) (h : singleEscape? c = some t) (cs : List Char) :
      Escapes v c cs t cs

theorem CodeLetter.not_structural {digits : Nat} (h : CodeLetter c digits) : isStructural c = false := by
  cases h <;> decide

theorem CodeLetter.digits_ne_zero {digits : Nat} (h : CodeLetter c digits) : digits ≠ 0 := by
  cases h <;> decide

theorem PropertyLetter.not_structural {negated : Bool} (h : PropertyLetter c negated) :
    isStructural c = false := by
  cases h <;> decide

theorem readEscape_single (hc : c ∉ escapeLetters) (cs : List Char) :
    readEscape v (c :: cs) = (singleEscape? c).map fun t => (t, cs) := by
  simp only [escapeLetters, List.mem_cons, List.not_mem_nil, or_false, not_or] at hc
  obtain ⟨hx, hu, hU, hp, hP, hb⟩ := hc
  rw [readEscape.eq_8 v c cs hx hu hU hp hP hb, singleEscape?]
  split
  · rfl
  · cases letterClass? c <;> cases controlChar? c <;> cases simpleAssertion? c <;> rfl

theorem Escapes.read {t : Tree} (h : Escapes v c cs t rest) : readEscape v (c :: cs) = some (t, rest) := by
  cases h with
  | code hc h | property hc h => cases hc <;> exact Option.map_eq_some_iff.2 ⟨_, h, rfl⟩
  | boundary h => exact Option.map_eq_some_iff.2 ⟨_, h, rfl⟩
  | single hc h => rw [readEscape_single hc, h, Option.map_some]

theorem escapes_of_read {t : Tree} (h : readEscape v (c :: cs) = some (t, rest)) : Escapes v c cs t rest := by
  by_cases hc : c ∈ escapeLetters
  · simp only [escapeLetters, List.mem_cons, List.not_mem_nil, or_false] at hc
    rcases hc with rfl | rfl | rfl | rfl | rfl | rfl
    all_goals
      obtain ⟨p, hread, heq⟩ := Option.map_eq_some_iff.1 h
      cases heq
    · exact .code .byte hread
    · exact .code .short hread
    · exact .code .long hread
    · exact .property .has hread
    · exact .property .lacks hread
    · exact .boundary hread
  · rw [readEscape_single hc] at h
    obtain ⟨t, ht, heq⟩ := Option.map_eq_some_iff.1 h
    cases heq
    exact .single hc ht cs

theorem leaves_readEscape {t : Tree} (h : readEscape false (c :: cs) = some (t, rest))
    (hanswered : t.Answered) : Leaves cs rest := by
  cases escapes_of_read h with
  | code _ h => exact leaves_readCodePoint h
  | property _ h => exact leaves_readProperty h hanswered
  | boundary h => exact leaves_readWordBoundary h
  | single => exact .refl _

end Patchwork.Regex
