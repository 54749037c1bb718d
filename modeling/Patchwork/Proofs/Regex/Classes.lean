import Patchwork.Proofs.Regex.Tracking
import Patchwork.Regex.Bracket

namespace Patchwork.Regex

open Token

namespace Bracket

variable {v : Bool} {c : Char} {members : List ClassSet} {cs rest : List Char}

theorem readHyphens_nil (hcs : afterBlanks v cs = []) (fuel : Nat) (members : List ClassSet) :
    readHyphens v fuel members cs = none := by
  cases fuel with
  | zero => rfl
  | succ fuel => simp only [readHyphens, hcs]

theorem readHyphens_hyphen (hcs : afterBlanks v cs = '-' :: rest) (fuel : Nat) (members : List ClassSet) :
    readHyphens v (fuel + 1) members cs = readHyphens v fuel (.literal ⟨'-', false⟩ :: members) rest := by
  simp only [readHyphens, hcs]

theorem readHyphens_other (hcs : afterBlanks v cs = c :: rest) (hc : c ≠ '-') (fuel : Nat)
    (members : List ClassSet) : readHyphens v (fuel + 1) members cs = some (members, c :: rest) := by
  unfold readHyphens
  rw [hcs]
  split
  · next heq => cases heq
  · next heq => exact absurd (List.cons.inj heq).1 hc
  · rfl

def readFirst (v negated : Bool) (cs : List Char) : Option (Bool × List ClassSet × List Char) :=
  (readHyphens v (cs.length + 1) [] cs).bind fun p =>
    if p.1.isEmpty ∧ p.2.head? = some ']' then
      if afterBlanks v p.2.tail = [] then none
      else some (negated, [.literal ⟨']', false⟩], afterBlanks v p.2.tail)
    else some (negated, p.1, p.2)

theorem readFirst_eq {found : List ClassSet} (hread : readHyphens v (cs.length + 1) [] cs = some (found, c :: rest))
    (negated : Bool) : readFirst v negated cs =
      if found.isEmpty ∧ c = ']' then
        if afterBlanks v rest = [] then none else some (negated, [.literal ⟨']', false⟩], afterBlanks v rest)
      else some (negated, found, c :: rest) := by
  simp only [readFirst, hread, Option.bind_some, List.head?_cons, Option.some.injEq, List.tail_cons]
  rfl

theorem readHead_eq (v negated : Bool) (cs : List Char) :
    (match readHyphens v (cs.length + 1) [] cs with
      | some ([], ']' :: rest) =>
        match afterBlanks v rest with
        | [] => none
        | rest => some (negated, [ClassSet.literal ⟨']', false⟩], rest)
      | some (members, rest) => some (negated, members, rest)
      | none => none) = readFirst v negated cs := by
  unfold readFirst
  cases readHyphens v (cs.length + 1) [] cs with
  | none => rfl
  | some p =>
      obtain ⟨members, rest⟩ := p
      cases members with
      | cons m ms => simp
      | nil =>
          cases rest with
          | nil => rfl
          | cons c rest =>
              by_cases hc : c = ']'
              · subst hc
                cases hrest : afterBlanks v rest <;> simp [hrest]
              · simp [hc]

def takeCaret (cs : List Char) : Bool × List Char :=
  match cs with
  | '^' :: rest => (true, rest)
  | _ => (false, cs)

theorem takeCaret_other (h : cs.head? ≠ some '^') : takeCaret cs = (false, cs) := by
  unfold takeCaret
  split
  · exact absurd rfl h
  · rfl

theorem readHead_eq_readFirst (v : Bool) (cs : List Char) :
    readHead v cs = readFirst v (takeCaret (afterBlanks v cs)).1 (takeCaret (afterBlanks v cs)).2 :=
  readHead_eq v _ _

theorem readHead_caret (hcs : afterBlanks v cs = '^' :: rest) : readHead v cs = readFirst v true rest := by
  rw [readHead_eq_readFirst, hcs, takeCaret]

theorem readHead_other (hcs : (afterBlanks v cs).head? ≠ some '^') :
    readHead v cs = readFirst v false (afterBlanks v cs) := by
  rw [readHead_eq_readFirst, takeCaret_other hcs]

theorem readHead_nil (v : Bool) : readHead v [] = none := by
  have hnone : (afterBlanks v []).head? ≠ some '^' := by simp [afterBlanks_nil]
  rw [readHead_other hnone, readFirst, afterBlanks_nil, readHyphens_nil (afterBlanks_nil v), Option.bind_none]

def InNamed (c : Char) : Prop := c = ':' ∨ c = '^' ∨ c.isAlpha

theorem isAlpha_of_ofName? {name : String} {kind : NamedClass} (h : NamedClass.ofName? name = some kind) :
    ∀ c ∈ name.toList, c.isAlpha := by
  refine List.all_eq_true.1 ?_
  unfold NamedClass.ofName? at h
  split at h
  all_goals cases h
  all_goals rfl

theorem isAlpha_cases (h : c.isAlpha) :
    Unicode.isWhiteSpace c = false ∧ c.isDigit = false ∧ isStructural c = false ∧
      c ∉ [':', '^', '#', '[', ']', '-', '&', '~', '\\'] := by
  have hascii : ∀ n < 128, (Char.ofNat n).isAlpha = true →
      Unicode.isWhiteSpace (Char.ofNat n) = false ∧ (Char.ofNat n).isDigit = false ∧
        isStructural (Char.ofNat n) = false ∧
          Char.ofNat n ∉ [':', '^', '#', '[', ']', '-', '&', '~', '\\'] := by decide
  have hlt : c.toNat < 128 := by
    rcases Bool.or_eq_true_iff.1 h with hupper | hlower
    · have hle := (of_decide_eq_true hupper).2
      exact Nat.lt_of_le_of_lt (UInt32.le_iff_toNat_le.1 hle) (by decide)
    · have hle := of_decide_eq_true (Bool.and_eq_true_iff.1 hlower).2
      exact Nat.lt_of_le_of_lt (UInt32.le_iff_toNat_le.1 hle) (by decide)
  rw [← Char.ofNat_toNat c] at h ⊢
  exact hascii _ hlt h

theorem inNamed_cases (h : InNamed c) :
    Unicode.isWhiteSpace c = false ∧ isStructural c = false ∧ c ∉ ['#', '[', ']', '-', '&', '~', '\\'] := by
  rcases h with rfl | rfl | halpha
  · decide
  · decide
  · obtain ⟨hspace, -, hstructural, hother⟩ := isAlpha_cases halpha
    exact ⟨hspace, hstructural, fun hc => hother (List.mem_cons_of_mem _ (List.mem_cons_of_mem _ hc))⟩

def namedBody (negated : Bool) (cs : List Char) : Option (ClassSet × List Char) :=
  match cs.dropWhile (· ≠ ':') with
  | ':' :: ']' :: rest =>
    (NamedClass.ofName? (String.ofList (cs.takeWhile (· ≠ ':')))).map
      fun kind => (ClassSet.named negated kind, rest)
  | _ => none

theorem readNamed?_colon (cs : List Char) :
    readNamed? (':' :: cs) = namedBody (takeCaret cs).1 (takeCaret cs).2 := rfl

theorem readNamed?_caret (cs : List Char) : readNamed? (':' :: '^' :: cs) = namedBody true cs := rfl

theorem readNamed?_other (h : cs.head? ≠ some '^') : readNamed? (':' :: cs) = namedBody false cs := by
  rw [readNamed?_colon, takeCaret_other h]

theorem readNamed?_of_head (h : cs.head? ≠ some ':') : readNamed? cs = none := by
  cases cs with
  | nil => rfl
  | cons c cs =>
      have hc : c ≠ ':' := by simpa using h
      simp [readNamed?, hc]

theorem namedBody_eq_some {negated : Bool} {s : ClassSet} : namedBody negated cs = some (s, rest) ↔
    ∃ kind name, NamedClass.ofName? (String.ofList name) = some kind ∧ s = .named negated kind ∧
      cs = name ++ ':' :: ']' :: rest := by
  constructor
  · intro h
    unfold namedBody at h
    split at h
    · next after hdrop =>
        obtain ⟨kind, hkind, heq⟩ := Option.map_eq_some_iff.1 h
        cases heq
        have hcs := List.takeWhile_append_dropWhile (p := fun c => decide (c ≠ ':')) (l := cs)
        rw [hdrop] at hcs
        exact ⟨kind, _, hkind, rfl, hcs.symm⟩
    · cases h
  · rintro ⟨kind, name, hkind, rfl, rfl⟩
    have hall : ∀ c ∈ name, decide (c ≠ ':') = true := by
      intro c hc
      have halpha := isAlpha_of_ofName? hkind c (by simpa using hc)
      rw [decide_eq_true_eq]
      rintro rfl
      exact absurd halpha (by decide)
    have htake : (name ++ ':' :: ']' :: rest).takeWhile (fun c => decide (c ≠ ':')) = name := by
      rw [List.takeWhile_append_of_pos hall]
      simp
    have hdrop : (name ++ ':' :: ']' :: rest).dropWhile (fun c => decide (c ≠ ':')) = ':' :: ']' :: rest := by
      rw [List.dropWhile_append_of_pos hall]
      simp
    simp only [namedBody, hdrop, htake, hkind, Option.map_some]

def namedText (negated : Bool) (name : List Char) : List Char :=
  ':' :: ((if negated then ['^'] else []) ++ name ++ [':'])

theorem readNamed?_eq_some {s : ClassSet} : readNamed? cs = some (s, rest) ↔
    ∃ negated kind name, NamedClass.ofName? (String.ofList name) = some kind ∧ s = .named negated kind ∧
      cs = namedText negated name ++ ']' :: rest := by
  constructor
  · intro h
    by_cases hcolon : cs.head? = some ':'
    · obtain ⟨cs, rfl⟩ := List.head?_eq_some_iff.1 hcolon
      by_cases hcaret : cs.head? = some '^'
      · obtain ⟨cs, rfl⟩ := List.head?_eq_some_iff.1 hcaret
        rw [readNamed?_caret] at h
        obtain ⟨kind, name, hkind, rfl, rfl⟩ := namedBody_eq_some.1 h
        exact ⟨true, kind, name, hkind, rfl, by simp [namedText]⟩
      · rw [readNamed?_other hcaret] at h
        obtain ⟨kind, name, hkind, rfl, rfl⟩ := namedBody_eq_some.1 h
        exact ⟨false, kind, name, hkind, rfl, by simp [namedText]⟩
    · rw [readNamed?_of_head hcolon] at h
      cases h
  · rintro ⟨negated, kind, name, hkind, rfl, rfl⟩
    have hbody : ∀ negated, namedBody negated (name ++ ':' :: ']' :: rest) = some (.named negated kind, rest) :=
      fun negated => namedBody_eq_some.2 ⟨kind, name, hkind, rfl, rfl⟩
    cases negated with
    | true => simpa [namedText, readNamed?_caret] using hbody true
    | false =>
        have hhead : (name ++ ':' :: ']' :: rest).head? ≠ some '^' := by
          cases name with
          | nil => simp
          | cons c name =>
              have halpha := isAlpha_of_ofName? hkind c (by simp)
              simp only [List.cons_append, List.head?_cons, ne_eq, Option.some.injEq]
              rintro rfl
              exact absurd halpha (by decide)
        simpa [namedText, readNamed?_other hhead] using hbody false

theorem inNamed_namedText {negated : Bool} {name : List Char} {kind : NamedClass}
    (h : NamedClass.ofName? (String.ofList name) = some kind) : ∀ c ∈ namedText negated name, InNamed c := by
  have halpha : ∀ c ∈ name, InNamed c := fun c hc => .inr (.inr (isAlpha_of_ofName? h c (by simpa using hc)))
  have hcolon : InNamed ':' := .inl rfl
  have hcaret : ∀ c ∈ (if negated then ['^'] else []), InNamed c := by
    cases negated with
    | true => exact List.forall_mem_singleton.2 (.inr (.inl rfl))
    | false => simp
  exact List.forall_mem_cons.2 ⟨hcolon, List.forall_mem_append.2
    ⟨List.forall_mem_append.2 ⟨hcaret, halpha⟩, List.forall_mem_singleton.2 hcolon⟩⟩

def asMember (t : Tree) (cs : List Char) : Option (ClassSet × List Char) :=
  match t with
  | .literal l => some (.literal l, cs)
  | .class s => some (s, cs)
  | _ => none

def asRange (first last : Tree) (cs : List Char) : Option (ClassSet × List Char) :=
  match first, last with
  | .literal a, .literal b => if a.char ≤ b.char then some (.range a b, cs) else none
  | _, _ => none

theorem asMember_eq_some {t : Tree} {s : ClassSet} (h : asMember t cs = some (s, rest)) :
    rest = cs ∧ ∀ ds, asMember t ds = some (s, ds) := by
  cases t <;> cases h <;> exact ⟨rfl, fun ds => rfl⟩

theorem asRange_eq_some {t u : Tree} {s : ClassSet} (h : asRange t u cs = some (s, rest)) :
    rest = cs ∧ ∀ ds, asRange t u ds = some (s, ds) := by
  unfold asRange at h ⊢
  split at h
  · split at h
    · next hle =>
        cases h
        exact ⟨rfl, fun ds => if_pos hle⟩
    · cases h
  · cases h

section Range

variable {t : Tree} {after more : List Char}

theorem readRange_end (hread : readMember v cs = some (t, after)) (hafter : afterBlanks v after = []) :
    readRange v cs = none := by
  simp [readRange, hread, hafter]

theorem readRange_single (hread : readMember v cs = some (t, after)) (hafter : afterBlanks v after = c :: rest)
    (hc : c ≠ '-') : readRange v cs = asMember t (c :: rest) := by
  simp [readRange, hread, hafter, hc]
  rfl

theorem readRange_lone (hread : readMember v cs = some (t, after)) (hafter : afterBlanks v after = '-' :: more)
    (hmore : peek v more = some ']' ∨ peek v more = some '-') : readRange v cs = asMember t ('-' :: more) := by
  rcases hmore with hmore | hmore
  all_goals
    simp [readRange, hread, hafter, hmore]
    rfl

theorem readRange_pair (hread : readMember v cs = some (t, after)) (hafter : afterBlanks v after = '-' :: more)
    (hmore : ¬(peek v more = some ']' ∨ peek v more = some '-')) :
    readRange v cs = (readMember v (afterBlanks v more)).bind fun p => asRange t p.1 p.2 := by
  rw [not_or] at hmore
  simp [readRange, hread, hafter, hmore.1, hmore.2]
  rfl

end Range

variable {frames : List Frame}

theorem readMembers_nil (hcs : afterBlanks v cs = []) (fuel : Nat) (frames : List Frame)
    (members : List ClassSet) : readMembers v fuel frames members cs = none := by
  cases fuel with
  | zero => rfl
  | succ fuel => simp only [readMembers, hcs]

theorem ne_nil_of_readMembers {fuel : Nat} {members : List ClassSet} {p : ClassSet × List Char}
    (h : readMembers v fuel frames members cs = some p) : cs ≠ [] := by
  rintro rfl
  rw [readMembers_nil (afterBlanks_nil v)] at h
  cases h

theorem readMembers_open (hcs : afterBlanks v cs = '[' :: rest) (fuel : Nat) (frames : List Frame)
    (members : List ClassSet) : readMembers v (fuel + 1) frames members cs = match readNamed? rest with
      | some (s, rest) => readMembers v fuel frames (s :: members) rest
      | none => (readHead v rest).bind fun p =>
          readMembers v fuel (.opened members p.1 :: frames) p.2.1 p.2.2 := by
  simp only [readMembers, hcs]
  rfl

theorem readMembers_close (hcs : afterBlanks v cs = ']' :: rest) (fuel : Nat) (frames : List Frame)
    (members : List ClassSet) :
    readMembers v (fuel + 1) frames members cs = (close? frames members).bind fun p =>
      match p.2 with
      | none => some (p.1, rest)
      | some (frames, outer) => readMembers v fuel frames (p.1 :: outer) rest := by
  simp only [readMembers, hcs]
  rfl

def sign : ClassOp → Char
  | .intersection => '&'
  | .difference => '-'
  | .symmetricDifference => '~'

theorem isStructural_sign (op : ClassOp) : isStructural (sign op) = false := by
  cases op <;> decide

theorem isNoParen_sign (op : ClassOp) : IsNoParen (sign op) := by
  cases op <;> exact ⟨by decide, by decide⟩

theorem readRange_sign (op : ClassOp) : readRange v [sign op] = none := by
  cases op <;> exact readRange_end rfl (afterBlanks_nil v)

theorem readMembers_operator {op : ClassOp} (hcs : afterBlanks v cs = sign op :: sign op :: rest)
    (fuel : Nat) (frames : List Frame) (members : List ClassSet) :
    readMembers v (fuel + 1) frames members cs =
      readMembers v fuel (pushOperator op frames members) [] rest := by
  cases op <;> simp only [readMembers, hcs, sign]

theorem readMembers_range (hcs : afterBlanks v cs = c :: rest) (hc : c ≠ '[' ∧ c ≠ ']')
    (hop : ∀ op, c = sign op → rest.head? ≠ some (sign op)) (fuel : Nat) (frames : List Frame)
    (members : List ClassSet) : readMembers v (fuel + 1) frames members cs =
      (readRange v (c :: rest)).bind fun p => readMembers v fuel frames (p.1 :: members) p.2 := by
  simp only [readMembers, hcs]
  split
  · next heq => cases heq
  · next heq => exact absurd (List.cons.inj heq).1 hc.1
  · next heq => exact absurd (List.cons.inj heq).1 hc.2
  · next heq =>
      obtain ⟨rfl, rfl⟩ := List.cons.inj heq
      exact absurd rfl (hop .intersection rfl)
  · next heq =>
      obtain ⟨rfl, rfl⟩ := List.cons.inj heq
      exact absurd rfl (hop .difference rfl)
  · next heq =>
      obtain ⟨rfl, rfl⟩ := List.cons.inj heq
      exact absurd rfl (hop .symmetricDifference rfl)
  · rfl

theorem ne_of_inNamed (h : InNamed c) {d : Char} (hd : d ∈ ['#', '[', ']', '-', '&', '~', '\\']) : c ≠ d := by
  rintro rfl
  exact (inNamed_cases h).2.2 hd

theorem afterBlanks_inNamed (h : ∀ c ∈ cs, InNamed c) : afterBlanks v cs = cs := by
  cases v with
  | false => rfl
  | true =>
      cases cs with
      | nil => rfl
      | cons c cs =>
          have hc := h c List.mem_cons_self
          have hblank : Unicode.isWhiteSpace c = false ∧ c ≠ '#' :=
            ⟨(inNamed_cases hc).1, ne_of_inNamed hc (by decide)⟩
          simp [afterBlanks, skipBlanks, hblank]

/-- A class is not closed by what may stand in the name of one. -/
theorem readMembers_inNamed {fuel : Nat} (h : ∀ c ∈ cs, InNamed c) :
    readMembers v fuel frames members cs = none := by
  induction fuel generalizing frames members cs with
  | zero => rfl
  | succ fuel ih =>
      have hcs : afterBlanks v cs = cs := afterBlanks_inNamed h
      cases cs with
      | nil => exact readMembers_nil hcs _ _ _
      | cons c cs =>
          obtain ⟨hc, hrest⟩ := List.forall_mem_cons.1 h
          have hop : ∀ op, c ≠ sign op := fun op => ne_of_inNamed hc (by cases op <;> decide)
          rw [readMembers_range hcs ⟨ne_of_inNamed hc (by decide), ne_of_inNamed hc (by decide)⟩
            fun op hsign => absurd hsign (hop op)]
          have hread : readMember v (c :: cs) = some (.literal ⟨c, false⟩, cs) := by
            have hescape : c ≠ '\\' := ne_of_inNamed hc (by decide)
            simp [readMember]
          have hafter : afterBlanks v cs = cs := afterBlanks_inNamed hrest
          cases cs with
          | nil => rw [readRange_end hread hafter, Option.bind_none]
          | cons d ds =>
              rw [readRange_single hread hafter (ne_of_inNamed (hrest d List.mem_cons_self) (by decide))]
              exact ih hrest

theorem readHead_inNamed {negated : Bool} (h : ∀ c ∈ cs, InNamed c)
    (hhead : readHead v cs = some (negated, members, rest)) : ∀ c ∈ rest, InNamed c := by
  have hfirst : ∀ {ds : List Char} {negated' : Bool}, (∀ c ∈ ds, InNamed c) →
      readFirst v negated' ds = some (negated, members, rest) → ∀ c ∈ rest, InNamed c := by
    intro ds negated' hds hread
    have hblanks : afterBlanks v ds = ds := afterBlanks_inNamed hds
    cases ds with
    | nil =>
        rw [readFirst, readHyphens_nil hblanks] at hread
        cases hread
    | cons d ds =>
        obtain ⟨hd, -⟩ := List.forall_mem_cons.1 hds
        have hbracket : d ≠ ']' := ne_of_inNamed hd (by decide)
        rw [readFirst, readHyphens_other hblanks (ne_of_inNamed hd (by decide)), Option.bind_some] at hread
        simp only [List.head?_cons, Option.some.injEq, hbracket, and_false, if_false] at hread
        obtain ⟨-, -, rfl⟩ := hread
        exact hds
  have hcs : afterBlanks v cs = cs := afterBlanks_inNamed h
  by_cases hcaret : (afterBlanks v cs).head? = some '^'
  · obtain ⟨ds, hds⟩ := List.head?_eq_some_iff.1 hcaret
    rw [readHead_caret hds] at hhead
    rw [hcs] at hds
    subst hds
    exact hfirst (List.forall_mem_cons.1 h).2 hhead
  · rw [readHead_other hcaret, hcs] at hhead
    exact hfirst h hhead

end Bracket

namespace Tracks

open Patchwork.Regex.Bracket

variable {v : Bool} {n : Nat} {R : List Char → List Char → Prop} {members : List ClassSet}
  {cs ds rest : List Char}

theorem readHyphens (h : Tracks v n R) {fuel fuel' : Nat} {found : List ClassSet} (hR : R cs ds)
    (hread : readHyphens v fuel members cs = some (found, rest)) (hfuel : ds.length < fuel') :
    rest ≠ [] ∧ ∃ rest', Bracket.readHyphens v fuel' members ds = some (found, rest') ∧ R rest rest' := by
  induction fuel generalizing fuel' members cs ds with
  | zero => cases hread
  | succ fuel ih =>
      rcases h.next hR with hnil | ⟨c, cs', ds', hcs, hds, hR, -, hlt⟩
      · rw [readHyphens_nil hnil] at hread
        cases hread
      obtain ⟨fuel', rfl⟩ := Nat.exists_eq_succ_of_ne_zero (Nat.ne_zero_of_lt hfuel)
      by_cases hc : c = '-'
      · subst hc
        rw [readHyphens_hyphen hcs] at hread
        rw [readHyphens_hyphen hds]
        exact ih (h.tail hR (.inl (by decide))) hread (by omega)
      · rw [readHyphens_other hcs hc] at hread
        cases hread
        exact ⟨List.cons_ne_nil _ _, c :: ds', readHyphens_other hds hc _ _, hR⟩

theorem readFirst (h : Tracks v n R) {negated negated' : Bool} (hR : R cs ds)
    (hread : readFirst v negated cs = some (negated', members, rest)) :
    cs ≠ [] ∧ ∃ rest', Bracket.readFirst v negated ds = some (negated', members, rest') ∧ R rest rest' := by
  obtain ⟨⟨found, after⟩, hfound, -⟩ := Option.bind_eq_some_iff.1 hread
  have hcs : cs ≠ [] := by
    rintro rfl
    rw [readHyphens_nil (afterBlanks_nil v)] at hfound
    cases hfound
  obtain ⟨hne, after', hfound', hafter⟩ := h.readHyphens hR hfound (Nat.lt_succ_self ds.length)
  obtain ⟨c, after, rfl⟩ := List.exists_cons_of_ne_nil hne
  obtain ⟨after', rfl⟩ := h.head hafter
  refine ⟨hcs, ?_⟩
  rw [readFirst_eq hfound] at hread
  rw [readFirst_eq hfound']
  by_cases hbracket : found.isEmpty ∧ c = ']'
  · rw [if_pos hbracket] at hread ⊢
    obtain ⟨-, rfl⟩ := hbracket
    have hblanks := h.blanks (h.tail hafter (.inl (by decide)))
    cases hcs : afterBlanks v after with
    | nil =>
        rw [if_pos hcs] at hread
        cases hread
    | cons d after =>
        rw [hcs] at hblanks hread
        obtain ⟨ds', hds⟩ := h.head hblanks
        rw [hds] at hblanks ⊢
        rw [if_neg (List.cons_ne_nil _ _)] at hread ⊢
        cases hread
        exact ⟨_, rfl, hblanks⟩
  · rw [if_neg hbracket] at hread ⊢
    cases hread
    exact ⟨_, rfl, hafter⟩

theorem readHead (h : Tracks v n R) {negated : Bool} (hR : R cs ds)
    (hread : readHead v cs = some (negated, members, rest)) :
    ∃ rest', Bracket.readHead v ds = some (negated, members, rest') ∧ R rest rest' := by
  have hblanks := h.blanks hR
  by_cases hcaret : (afterBlanks v cs).head? = some '^'
  · obtain ⟨cs', hcs⟩ := List.head?_eq_some_iff.1 hcaret
    rw [hcs] at hblanks
    obtain ⟨ds', hds⟩ := h.head hblanks
    rw [hds] at hblanks
    rw [readHead_caret hcs] at hread
    rw [readHead_caret hds]
    exact (h.readFirst (h.tail hblanks (.inl (by decide))) hread).2
  · rw [readHead_other hcaret] at hread
    obtain ⟨hne, hread'⟩ := h.readFirst hblanks hread
    have hcaret' : (afterBlanks v ds).head? ≠ some '^' :=
      mt (h.head?_iff hblanks (fun hnil => absurd hnil hne) ⟨by decide, by decide⟩).1 hcaret
    rwa [readHead_other hcaret']

theorem ordinary_namedText {negated : Bool} {name : List Char} {kind : NamedClass}
    (hkind : NamedClass.ofName? (String.ofList name) = some kind) : Ordinary (namedText negated name) :=
  fun c hc => (inNamed_cases (inNamed_namedText hkind c hc)).2.1

theorem readNamed? (h : Tracks v n R) {s : ClassSet} (hR : R cs ds) (hread : readNamed? cs = some (s, rest)) :
    ∃ rest', Bracket.readNamed? ds = some (s, rest') ∧ R rest rest' := by
  obtain ⟨negated, kind, name, hkind, rfl, rfl⟩ := readNamed?_eq_some.1 hread
  obtain ⟨ds, rfl, hclose⟩ := h.append (.inl (ordinary_namedText hkind)) hR
  obtain ⟨ds, rfl⟩ := h.head hclose
  exact ⟨ds, readNamed?_eq_some.2 ⟨negated, kind, name, hkind, rfl, rfl⟩, h.tail hclose (.inl (by decide))⟩

/-- Where the first text ends in what could become the name of a class, the second may go on with it. -/
theorem readNamed?_none (h : Tracks v n R) (hR : R cs ds) (hread : Bracket.readNamed? cs = none) :
    Bracket.readNamed? ds = none ∨ ∀ c ∈ cs, InNamed c := by
  cases hread' : Bracket.readNamed? ds with
  | none => exact .inl rfl
  | some p =>
      obtain ⟨s, rest⟩ := p
      obtain ⟨negated, kind, name, hkind, rfl, rfl⟩ := readNamed?_eq_some.1 hread'
      refine .inr fun c hc => ?_
      rcases h.split (ordinary_namedText hkind) hR with hstart | ⟨cs', rfl, hclose⟩
      · exact inNamed_namedText hkind c (hstart.subset hc)
      · cases cs' with
        | nil =>
            rw [List.append_nil] at hc
            exact inNamed_namedText hkind c hc
        | cons d cs' =>
            obtain ⟨ds', heq⟩ := h.head hclose
            obtain ⟨rfl, -⟩ := List.cons.inj heq
            rw [readNamed?_eq_some.2 ⟨negated, kind, name, hkind, rfl, rfl⟩] at hread
            cases hread

theorem le_length (hone : n ≤ 1) (hne : cs ≠ []) : n ≤ cs.length :=
  Nat.le_trans hone (List.length_pos_iff.2 hne)

theorem readMember (h : Tracks v n R) (hone : n ≤ 1) {t : Tree} (hR : R cs ds)
    (hread : readMember v cs = some (t, rest)) (hn : n ≤ rest.length) :
    ∃ rest', Bracket.readMember v ds = some (t, rest') ∧ R rest rest' := by
  cases cs with
  | nil => cases hread
  | cons c cs =>
      obtain ⟨ds, rfl⟩ := h.head hR
      by_cases hc : c = '\\'
      · subst hc
        have hread : Regex.readEscape v cs = some (t, rest) := hread
        have hne : cs ≠ [] := by
          rintro rfl
          cases hread
        exact h.readEscape (h.tail hR (.inr (le_length hone hne))) hread hn
      · have hliteral : ∀ ds, Bracket.readMember v (c :: ds) = some (.literal ⟨c, false⟩, ds) := fun ds => by
          simp [Bracket.readMember]
        rw [hliteral] at hread
        cases hread
        exact ⟨ds, hliteral ds, h.tail hR (.inr hn)⟩

theorem peek_iff (h : Tracks v n R) (hR : R cs ds) (hne : cs ≠ []) :
    (peek v ds = some ']' ∨ peek v ds = some '-') ↔ (peek v cs = some ']' ∨ peek v cs = some '-') :=
  or_congr (h.peeks hR (fun hnil => absurd hnil hne) ⟨by decide, by decide⟩)
    (h.peeks hR (fun hnil => absurd hnil hne) ⟨by decide, by decide⟩)

theorem readRange (h : Tracks v n R) (hone : n ≤ 1) {s : ClassSet} (hR : R cs ds)
    (hread : readRange v cs = some (s, rest)) (hn : n ≤ rest.length) :
    ∃ rest', Bracket.readRange v ds = some (s, rest') ∧ R rest rest' := by
  cases hmember : Bracket.readMember v cs with
  | none => simp [Bracket.readRange, hmember] at hread
  | some p =>
      obtain ⟨t, after⟩ := p
      by_cases hafter : after = []
      · subst hafter
        rw [readRange_end hmember (afterBlanks_nil v)] at hread
        cases hread
      obtain ⟨after', hmember', hR⟩ := h.readMember hone hR hmember (le_length hone hafter)
      rcases h.next hR with hnil | ⟨c, more, more', hcs, hds, hR, -, -⟩
      · rw [readRange_end hmember hnil] at hread
        cases hread
      by_cases hc : c = '-'
      · subst hc
        have hmore := h.tail hR (.inl (by decide))
        by_cases hne : more = []
        · subst hne
          have hnone : ¬(peek v [] = some ']' ∨ peek v [] = some '-') := by cases v <;> decide
          rw [readRange_pair hmember hcs hnone, afterBlanks_nil] at hread
          cases hread
        have hpeek := h.peek_iff hmore hne
        by_cases hlone : peek v more = some ']' ∨ peek v more = some '-'
        · rw [readRange_lone hmember hcs hlone] at hread
          obtain ⟨rfl, hsingle⟩ := asMember_eq_some hread
          exact ⟨_, by rw [readRange_lone hmember' hds (hpeek.2 hlone), hsingle], hR⟩
        · rw [readRange_pair hmember hcs hlone] at hread
          obtain ⟨⟨u, last⟩, hlast, hread⟩ := Option.bind_eq_some_iff.1 hread
          obtain ⟨rfl, hpair⟩ := asRange_eq_some hread
          obtain ⟨rest', hlast', hrest⟩ := h.readMember hone (h.blanks hmore) hlast hn
          refine ⟨rest', ?_, hrest⟩
          rw [readRange_pair hmember' hds (mt hpeek.1 hlone), hlast']
          exact hpair _
      · rw [readRange_single hmember hcs hc] at hread
        obtain ⟨rfl, hsingle⟩ := asMember_eq_some hread
        exact ⟨_, by rw [readRange_single hmember' hds hc, hsingle], hR⟩

/-- A class within a class is read alike, unless its text could be the beginning of a named class; it is not
closed then. -/
theorem readNested (h : Tracks v n R) {negated : Bool} {after : List Char} (hR : R cs ds)
    (hnamed : Bracket.readNamed? cs = none) (hhead : Bracket.readHead v cs = some (negated, members, after)) :
    (Bracket.readNamed? ds = none ∧
        ∃ after', Bracket.readHead v ds = some (negated, members, after') ∧ R after after') ∨
      ∀ fuel frames, Bracket.readMembers v fuel frames members after = none := by
  rcases h.readNamed?_none hR hnamed with hnamed' | hall
  · exact .inl ⟨hnamed', h.readHead hR hhead⟩
  · exact .inr fun fuel frames => readMembers_inNamed (readHead_inNamed hall hhead)

/-- Where a member begins with the sign of an operator, it is not doubled in one text if not in the other. -/
theorem head?_ne_sign (h : Tracks v n R) {p : ClassSet × List Char} {op : ClassOp}
    (hR : R (sign op :: cs) (sign op :: ds)) (hrange : Bracket.readRange v (sign op :: cs) = some p)
    (hsign : cs.head? ≠ some (sign op)) : ds.head? ≠ some (sign op) := by
  have hcs : cs ≠ [] := by
    rintro rfl
    rw [readRange_sign] at hrange
    cases hrange
  have htail := h.tail hR (.inl (isStructural_sign op))
  exact mt (h.head?_iff htail (fun hnil => absurd hnil hcs) (isNoParen_sign op)).1 hsign

theorem readMembers (h : Tracks v n R) (hone : n ≤ 1) {fuel fuel' : Nat} {frames : List Bracket.Frame}
    {s : ClassSet} (hR : R cs ds) (hread : readMembers v fuel frames members cs = some (s, rest)) (hfuel : fuel ≤ fuel') :
    ∃ rest', Bracket.readMembers v fuel' frames members ds = some (s, rest') ∧ R rest rest' := by
  induction fuel generalizing fuel' frames members cs ds with
  | zero => cases hread
  | succ fuel ih =>
      obtain ⟨fuel', rfl⟩ := Nat.exists_eq_succ_of_ne_zero (Nat.ne_zero_of_lt hfuel)
      have hfuel := Nat.le_of_succ_le_succ hfuel
      rcases h.next hR with hnil | ⟨c, cs', ds', hcs, hds, hR, -, -⟩
      · rw [readMembers_nil hnil] at hread
        cases hread
      by_cases hopen : c = '['
      · subst hopen
        rw [readMembers_open hcs] at hread
        rw [readMembers_open hds]
        have hcs' : cs' ≠ [] := by
          rintro rfl
          rw [readNamed?_of_head (by simp), readHead_nil] at hread
          cases hread
        have hR := h.tail hR (.inr (le_length hone hcs'))
        cases hnamed : Bracket.readNamed? cs' with
        | some p =>
            rw [hnamed] at hread
            obtain ⟨after', hnamed', hafter⟩ := h.readNamed? hR hnamed
            rw [hnamed']
            exact ih hafter hread hfuel
        | none =>
            rw [hnamed] at hread
            obtain ⟨⟨negated, inner, after⟩, hhead, hread⟩ := Option.bind_eq_some_iff.1 hread
            rcases h.readNested hR hnamed hhead with ⟨hnamed', after', hhead', hafter⟩ | hnone
            · rw [hnamed', hhead']
              exact ih hafter hread hfuel
            -- the second text goes on with the name of a class, and then the first is not read to its end
            · cases (hnone _ _).symm.trans hread
      by_cases hclose : c = ']'
      · subst hclose
        rw [readMembers_close hcs] at hread
        obtain ⟨⟨t, around⟩, hclosed, hread⟩ := Option.bind_eq_some_iff.1 hread
        rw [readMembers_close hds, hclosed, Option.bind_some]
        have hR := h.tail hR (.inl (by decide))
        cases around with
        | none =>
            cases hread
            exact ⟨ds', rfl, hR⟩
        | some p => exact ih hR hread hfuel
      by_cases hop : ∃ op es, c = sign op ∧ cs' = sign op :: es
      · obtain ⟨op, es, rfl, rfl⟩ := hop
        have hsecond := h.tail hR (.inl (isStructural_sign op))
        obtain ⟨fs, rfl⟩ := h.head hsecond
        rw [readMembers_operator hcs] at hread
        rw [readMembers_operator hds]
        exact ih (h.tail hsecond (.inl (isStructural_sign op))) hread hfuel
      · have hsign : ∀ op, c = sign op → cs'.head? ≠ some (sign op) := by
          intro op hc hhead
          obtain ⟨es, hes⟩ := List.head?_eq_some_iff.1 hhead
          exact hop ⟨op, es, hc, hes⟩
        rw [readMembers_range hcs ⟨hopen, hclose⟩ hsign] at hread
        obtain ⟨⟨t, after⟩, hrange, hread⟩ := Option.bind_eq_some_iff.1 hread
        obtain ⟨after', hrange', hafter⟩ := h.readRange hone hR hrange (le_length hone (ne_nil_of_readMembers hread))
        have hsign' : ∀ op, c = sign op → ds'.head? ≠ some (sign op) := by
          rintro op rfl
          exact h.head?_ne_sign hR hrange (hsign op rfl)
        rw [readMembers_range hds ⟨hopen, hclose⟩ hsign', hrange']
        exact ih hafter hread hfuel

theorem readClass (h : Tracks v n R) (hone : n ≤ 1) (hlen : ∀ {cs ds}, R cs ds → cs.length ≤ ds.length)
    {s : ClassSet} (hR : R cs ds) (hread : Bracket.read v cs = some (s, rest)) :
    ∃ rest', Bracket.read v ds = some (s, rest') ∧ R rest rest' := by
  obtain ⟨⟨negated, members, after⟩, hhead, hread⟩ := Option.bind_eq_some_iff.1 hread
  obtain ⟨after', hhead', hafter⟩ := h.readHead hR hhead
  obtain ⟨rest', hread', hrest⟩ := h.readMembers hone hafter hread (Nat.succ_le_succ (hlen hafter))
  exact ⟨rest', Option.bind_eq_some_iff.2 ⟨_, hhead', hread'⟩, hrest⟩

end Tracks

end Patchwork.Regex
