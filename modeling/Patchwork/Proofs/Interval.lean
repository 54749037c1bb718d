import Mathlib.Data.List.Nodup
import Patchwork.Proofs.Plain
import Patchwork.Proofs.Regex.Words

namespace Patchwork

open Token Marked Regex

namespace Text

def IsNumeral (cs : List Char) (n : Nat) : Prop :=
  cs ≠ [] ∧ (∀ c ∈ cs, c.isDigit) ∧ Nat.ofDigitChars 10 cs 0 = n

instance (cs : List Char) (n : Nat) : Decidable (IsNumeral cs n) :=
  decidable_of_iff (cs ≠ [] ∧ cs.all Char.isDigit = true ∧ Nat.ofDigitChars 10 cs 0 = n) (by simp [IsNumeral])

variable {cs : List Char} {n : Nat}

theorem digitsValue_eq_some_iff {value : Nat} :
    digitsValue cs value = some n ↔ (∀ c ∈ cs, c.isDigit) ∧ Nat.ofDigitChars 10 cs value = n := by
  induction cs generalizing value with
  | nil => simp [digitsValue]
  | cons c cs ih =>
      rw [digitsValue, List.forall_mem_cons, Nat.ofDigitChars_cons]
      split
      · next hc => rw [ih, and_assoc, and_iff_right hc]
      · next hc => simp [hc]

theorem parseNumber?_eq_some_iff : parseNumber? cs = some n ↔ IsNumeral (unsigned cs) n ∧ n < numberBound := by
  unfold parseNumber? IsNumeral
  split
  · next hempty => simp [List.isEmpty_iff.1 hempty]
  · next hne =>
      rw [Option.filter_eq_some_iff, digitsValue_eq_some_iff, decide_eq_true_eq]
      simp [List.isEmpty_iff.not.1 hne]

end Text

namespace NumberRange

open Text

/-- Blanks around it aside, the argument is a numeral of 64 bits, ahead of which a plus sign may stand. -/
def Means (raw : String) (n : Nat) : Prop := IsNumeral (unsigned (trim raw.toList)) n ∧ n < 2 ^ 64

instance (raw : String) (n : Nat) : Decidable (Means raw n) := inferInstanceAs (Decidable (_ ∧ _))

structure Asks (args : List String) (first last width : Nat) : Prop where
  atFirst : ∃ raw, args[0]? = some raw ∧ Means raw first
  atLast : ∃ raw, args[1]? = some raw ∧ Means raw last
  atWidth : args[2]? = none ∧ width = 1 ∨ ∃ raw, args[2]? = some raw ∧ Means raw width
  width_le : width ≤ 64
  le : first ≤ last
  few : last - first < 10000

variable {args : List String} {first last width n : Nat}

theorem argument_eq_ok_iff {index : Nat} {raw : String} : argument index raw = .ok n ↔ Means raw n := by
  rw [Means, ← show numberBound = 2 ^ 64 from rfl, ← parseNumber?_eq_some_iff, argument]
  split
  · next k hk => rw [hk, Option.some.injEq, Except.ok.injEq]
  · next hnone => simp [hnone]

theorem widthOf_eq_ok_iff {more : List String} : widthOf more = .ok width ↔
    (more[0]? = none ∧ width = 1 ∨ ∃ raw, more[0]? = some raw ∧ Means raw width) ∧ width ≤ 64 := by
  cases more with
  | nil =>
      simp only [widthOf, Except.ok.injEq, List.getElem?_nil, true_and, reduceCtorEq, false_and, exists_false,
        or_false]
      omega
  | cons raw more =>
      have hbound : ∀ k, (if k ≤ maxWidth then Except.ok k else .error (FragmentError.invalidArgument 2 raw)) =
          .ok width ↔ k = width ∧ width ≤ 64 := by
        intro k
        split
        · next hle =>
            rw [Except.ok.injEq]
            exact ⟨fun h => ⟨h, h ▸ hle⟩, And.left⟩
        · next hlt => exact iff_of_false (fun h => by cases h) fun h => hlt (h.1 ▸ h.2)
      rw [widthOf, bind_eq_ok_iff]
      simp only [argument_eq_ok_iff, hbound]
      simp

theorem execute_eq_ok_iff {text : String} : execute args = .ok text ↔
    ∃ first last width, Asks args first last width ∧ text = alternation first last width := by
  rcases args with - | ⟨rawFirst, - | ⟨rawLast, more⟩⟩
  · exact iff_of_false (fun h => by cases h) fun ⟨_, _, _, h, _⟩ => by
      obtain ⟨raw, hraw, -⟩ := h.atFirst
      cases hraw
  · exact iff_of_false (fun h => by cases h) fun ⟨_, _, _, h, _⟩ => by
      obtain ⟨raw, hraw, -⟩ := h.atLast
      cases hraw
  · have hchecks : ∀ first last width, (if first > last then Except.error (FragmentError.emptyRange first last)
        else if last - first ≥ maxLength then .error (.rangeTooLarge first last maxLength)
        else .ok (alternation first last width)) = .ok text ↔
          first ≤ last ∧ last - first < 10000 ∧ text = alternation first last width := by
      intro first last width
      split
      · next hlt => exact iff_of_false (fun h => by cases h) fun h => Nat.not_le_of_lt hlt h.1
      · next hle =>
          split
          · next hmany => exact iff_of_false (fun h => by cases h) fun h => Nat.not_lt_of_le hmany h.2.1
          · next hfew =>
              rw [Except.ok.injEq, eq_comm]
              exact ⟨fun h => ⟨Nat.le_of_not_lt hle, Nat.lt_of_not_le hfew, h⟩, fun h => h.2.2⟩
    simp only [execute, bind_eq_ok_iff, argument_eq_ok_iff, widthOf_eq_ok_iff, hchecks]
    constructor
    · rintro ⟨first, hfirst, last, hlast, width, ⟨hwidth, hle⟩, hordered, hfew, htext⟩
      exact ⟨first, last, width, ⟨⟨_, rfl, hfirst⟩, ⟨_, rfl, hlast⟩, hwidth, hle, hordered, hfew⟩, htext⟩
    · rintro ⟨first, last, width, ⟨⟨_, ⟨⟩, hfirst⟩, ⟨_, ⟨⟩, hlast⟩, hwidth, hle, hordered, hfew⟩, htext⟩
      exact ⟨first, hfirst, last, hlast, width, ⟨hwidth, hle⟩, hordered, hfew, htext⟩

def numeral (width n : Nat) : List Char := (Nat.toDigits 10 n).leftpad width '0'

theorem toList_padded (width n : Nat) : (padded width n).toList = numeral width n := by
  rw [padded, String.toList_ofList, Nat.toString_eq_ofList_toDigits, String.toList_ofList]
  rfl

theorem isNumeral_numeral (width n : Nat) : IsNumeral (numeral width n) n := by
  refine ⟨?_, fun c hc => ?_, ?_⟩
  · exact List.append_ne_nil_of_right_ne_nil _ Nat.toDigits_ne_nil
  · rcases List.mem_append.1 hc with hc | hc
    · rw [(List.mem_replicate.1 hc).2]
      rfl
    · exact Nat.isDigit_of_mem_toDigits (by decide) (by decide) hc
  · rw [numeral, List.leftpad, Nat.ofDigitChars_append, Nat.ofDigitChars_replicate_zero, Nat.mul_zero,
      Nat.ofDigitChars_ten_toDigits]

def later (first last width : Nat) : List (List Char) :=
  (List.range' (first + 1) (last - first)).map (numeral width)

theorem numerals_eq (hle : first ≤ last) : numeral width first :: later first last width =
    (List.range' first (last + 1 - first)).map (numeral width) := by
  have hcount : last + 1 - first = last - first + 1 := by omega
  rw [hcount, List.range'_succ, List.map_cons, later]

theorem mem_numerals_iff (hle : first ≤ last) {cs : List Char} :
    cs ∈ numeral width first :: later first last width ↔ ∃ n, first ≤ n ∧ n ≤ last ∧ cs = numeral width n := by
  rw [numerals_eq hle, List.mem_map]
  constructor
  · rintro ⟨n, hn, rfl⟩
    have hbounds := List.mem_range'_1.1 hn
    exact ⟨n, hbounds.1, by omega, rfl⟩
  · rintro ⟨n, hfirst, hlast, rfl⟩
    exact ⟨n, List.mem_range'_1.2 ⟨hfirst, by omega⟩, rfl⟩

theorem isLone_of_isDigit {c : Char} (h : c.isDigit) : IsLone c := by
  have hdigits : ∀ d < 10, Char.ofNat (48 + d) ∉ Item.signs ∧
      Unicode.orbit (Char.ofNat (48 + d)) = [Char.ofNat (48 + d)] := by decide +kernel
  obtain ⟨hlow, hhigh⟩ : 48 ≤ c.toNat ∧ c.toNat ≤ 57 := Char.isDigit_iff_toNat.1 h
  have hc := hdigits (c.toNat - 48) (by omega)
  rwa [Nat.add_sub_cancel' hlow, Char.ofNat_toNat] at hc

theorem isLone_of_mem_numerals (hle : first ≤ last) :
    ∀ v ∈ numeral width first :: later first last width, ∀ c ∈ v, IsLone c := by
  intro v hv c hc
  obtain ⟨n, -, -, rfl⟩ := (mem_numerals_iff hle).1 hv
  exact isLone_of_isDigit ((isNumeral_numeral width n).2.1 c hc)

theorem toList_between (hle : first ≤ last) : ("^" ++ alternation first last width ++ "$").toList =
    held (numeral width first) (later first last width) := by
  rw [held, numerals_eq hle, String.toList_append, String.toList_append, toList_alternation]
  simp [toList_padded]

end NumberRange

namespace Regex

variable {w : List Char} {ws : List (List Char)} {source : String}

theorem IsLone.not_structural {c : Char} (h : IsLone c) : isStructural c = false :=
  Item.not_structural_of_not_sign h.1

theorem marks_held (hws : ∀ v ∈ w :: ws, ∀ c ∈ v, IsLone c) : marks (held w ws) = plain (held w ws) := by
  have hordinary : Ordinary (':' :: (['|'].intercalate (w :: ws) ++ [')'])) := by
    have hbar : ∀ c ∈ ['|'], isStructural c = false := List.forall_mem_singleton.2 (by decide)
    have hclose : ∀ c ∈ [')'], isStructural c = false := List.forall_mem_singleton.2 (by decide)
    have hwords := forall_mem_intercalate hbar fun v hv c hc => (hws v hv c hc).not_structural
    exact List.forall_mem_cons.2 ⟨by decide, List.forall_mem_append.2 ⟨hwords, hclose⟩⟩
  obtain ⟨hsealed, hplain⟩ := isSealed_special (by decide) hordinary
  have hheld : held w ws = '^' :: ('(' :: '?' :: ':' :: (['|'].intercalate (w :: ws) ++ [')']) ++ ['$']) := by
    simp [held]
  have hend : marks ['$'] = plain ['$'] := by
    rw [marks_dollar (by simp), marks_nil]
    rfl
  rw [hheld, marks_ordinary (by decide), hsealed.closed, hplain, hend, ← plain_append, ← plain_cons]

theorem renumber_held (hsource : source.toList = held w ws) (hws : ∀ v ∈ w :: ws, ∀ c ∈ v, IsLone c) :
    (renumber source).body = source ∧ (renumber source).groupCount = 1 := by
  have hreads := renumber_reads source
  rw [hsource, marks_held hws] at hreads
  refine ⟨String.toList_inj.1 ?_, ?_⟩
  · rw [hreads.body, chars_plain, hsource]
  · rw [hreads.groupCount, names_plain, List.length_nil]

theorem isPlain_held (hsource : source.toList = held w ws) (hws : ∀ v ∈ w :: ws, ∀ c ∈ v, IsLone c) :
    IsPlain source := by
  have hbar : ∀ c ∈ ['|'], c ≠ '{' := List.forall_mem_singleton.2 (by decide)
  have hwords : ∀ c ∈ ['|'].intercalate (w :: ws), c ≠ '{' := by
    refine forall_mem_intercalate hbar ?_
    rintro v hv c hc rfl
    exact (hws v hv _ hc).1 (by decide)
  refine isPlain_of_not_mem fun h => ?_
  rw [hsource, held] at h
  simp only [List.mem_cons, List.mem_append, List.not_mem_nil, Char.reduceEq, or_false, false_or] at h
  exact hwords _ h rfl

/-- Where the engine has no room for the words, the pattern is refused. -/
theorem exists_run_held_refused {r : Registry} {s : Store} (hflags : r.options.flags = .standard)
    (hissued : ∀ p ∈ s.published, p.1 < s.nextSerial) (hsource : source.toList = held w ws)
    (hws : ∀ v ∈ w :: ws, ∀ c ∈ v, IsLone c) (hroom : roomLimit < (heldForm w ws).room) :
    ∃ t, (r.compile source).run s = (.error (.pattern (ModeFlags.standard.directive ++ source)), t) := by
  obtain ⟨t, hrun⟩ := Compiling.exists_run_compile_plain (isPlain_held hsource hws) hissued (r := r)
  have hcompiled := compile?_held hsource hws
  have hbody := (renumber_held hsource hws).1
  rw [if_pos hroom, ← hbody] at hcompiled
  rw [hflags, Compiling.assemble_of_refused source { Draft.empty with text := source } hcompiled, hbody] at hrun
  exact ⟨t, hrun⟩

theorem exists_run_held {r : Registry} {s : Store} (hflags : r.options.flags = .standard)
    (hissued : ∀ p ∈ s.published, p.1 < s.nextSerial) (hsource : source.toList = held w ws)
    (hws : ∀ v ∈ w :: ws, ∀ c ∈ v, IsLone c) :
    ∃ t, (∃ c, (r.compile source).run s = (.ok c, t) ∧ c.groupCount = 1 ∧
        ∀ text, c.isMatch text ↔ text.toList ∈ w :: ws) ∨
      ∃ refused, (r.compile source).run s = (.error (.pattern refused), t) ∧
        roomLimit < (heldForm w ws).room + 64 := by
  by_cases hroom : roomLimit < (heldForm w ws).room
  · obtain ⟨t, hrun⟩ := exists_run_held_refused hflags hissued hsource hws hroom
    exact ⟨t, .inr ⟨_, hrun, by omega⟩⟩
  · obtain ⟨t, hrun⟩ := Compiling.exists_run_compile_plain (isPlain_held hsource hws) hissued (r := r)
    obtain ⟨hbody, hcount⟩ := renumber_held hsource hws
    have hcompiled := compile?_held hsource hws
    rw [hflags] at hrun
    rw [if_neg hroom] at hcompiled
    cases hanchored : Regex.compile? (ModeFlags.standard.directive ++ "\\A(?:" ++ source ++ ")") with
    | none =>
        have hle : ¬(heldForm w ws).room + 64 ≤ roomLimit := by
          intro hle
          obtain ⟨anchored, hsome⟩ :=
            exists_compile?_anchored hcompiled (terse_held hsource hws) (roomy_held hsource hws hle)
          cases hanchored.symm.trans hsome
        rw [← hbody] at hcompiled hanchored
        have hrefused := Compiling.assemble_of_anchored_refused source { Draft.empty with text := source }
          hcompiled hanchored
        rw [hrefused] at hrun
        exact ⟨t, .inr ⟨_, hrun, Nat.lt_of_not_le hle⟩⟩
    | some anchored =>
        rw [← hbody] at hcompiled hanchored
        obtain ⟨c, hc, hregex, hgroups, -⟩ := Compiling.exists_assemble hcompiled hanchored hcount.symm
        refine ⟨t, .inl ⟨c, hrun.trans (by rw [hc]), hgroups, fun text => ?_⟩⟩
        rw [CompiledExpression.isMatch, hregex]
        exact isSome_runFrom_held w ws text.toList

end Regex

namespace NumberRange

open Text

variable {args : List String} {first last width n : Nat}

theorem length_numeral_le (hwidth : width ≤ 64) (hn : n < 2 ^ 64) : (numeral width n).length ≤ 64 := by
  have hdigits : (Nat.toDigits 10 n).length ≤ 64 :=
    (Nat.length_toDigits_le_iff (by decide) (by decide)).2 (Nat.lt_trans hn (by decide))
  rw [numeral, List.length_leftpad]
  exact Nat.max_le.2 ⟨hwidth, hdigits⟩

/-- An alternation of so many characters stays away from the limit of the engine: of at most 64 digits, the
first three are shared, read from either end. -/
theorem room_between_le (hle : first ≤ last) (hwidth : width ≤ 64) (hlast : last < 2 ^ 64)
    (hlen : (alternation first last width).length ≤ 164000) :
    (heldForm (numeral width first) (later first last width)).room + 64 ≤ roomLimit := by
  have hwords : ∀ v ∈ numeral width first :: later first last width, v.length ≤ 64 := by
    intro v hv
    obtain ⟨n, -, hn, rfl⟩ := (mem_numerals_iff hle).1 hv
    exact length_numeral_le hwidth (Nat.lt_of_le_of_lt hn hlast)
  have hdigits : ∀ v ∈ numeral width first :: later first last width, ∀ c ∈ v, c.toNat ∈ List.range' 48 10 := by
    intro v hv c hc
    obtain ⟨n, -, -, rfl⟩ := (mem_numerals_iff hle).1 hv
    obtain ⟨hlow, hhigh⟩ := Char.isDigit_iff_toNat.1 ((isNumeral_numeral width n).2.1 c hc)
    exact List.mem_range'_1.2 ⟨hlow, Nat.lt_succ_of_le hhigh⟩
  have hroom := room_wordsForm_le (by simp) 3 hdigits
  have hfull : fullRoom 3 = 16428 := rfl
  have hfirst := hwords _ List.mem_cons_self
  -- of a numeral and its bar, at most 61 characters in 65 lie behind the three that are shared
  have hshared : 65 * ((numeral width first :: later first last width).map fun v => v.length - 3).sum ≤
      61 * ((numeral width first :: later first last width).map fun v => v.length + 1).sum := by
    rw [← List.sum_map_mul_left, ← List.sum_map_mul_left]
    refine List.sum_le_sum fun v hv => ?_
    have hv := hwords v hv
    omega
  have hlength : (alternation first last width).length =
      ((numeral width first :: later first last width).map fun v => v.length + 1).sum + 3 := by
    have hbars : (['|'].intercalate (numeral width first :: later first last width)).length + 1 =
        ((numeral width first :: later first last width).map fun v => v.length + 1).sum :=
      length_intercalate ['|'] _ _
    rw [← String.length_toList, toList_alternation]
    simp only [toList_padded, ← numerals_eq hle, List.length_cons, List.length_append, List.length_nil]
    omega
  rw [room_heldForm, roomLimit]
  omega

/-- The function writes numbers out just for such arguments, up to the greatest of 64 bits. What stands between
the ends of the text is then compiled, without capture groups, to what matches just the numerals of the interval;
only where it is longer than 164 000 characters may the engine refuse it. -/
theorem execute_matches (args : List String) :
    ((∃ out, execute args = .ok out) ↔ ∃ first last width, Asks args first last width) ∧
      ∀ first last width, Asks args first last width → ∃ out, execute args = .ok out ∧
        ∀ (r : Registry) (s : Store), r.options.flags = .standard → (∀ p ∈ s.published, p.1 < s.nextSerial) →
          ∃ t, (∃ c, (r.compile ("^" ++ out ++ "$")).run s = (.ok c, t) ∧ c.groupCount = 1 ∧
              ∀ text, c.isMatch text ↔
                ∃ n, first ≤ n ∧ n ≤ last ∧ text.toList = (Nat.toDigits 10 n).leftpad width '0') ∨
            ∃ refused, (r.compile ("^" ++ out ++ "$")).run s = (.error (.pattern refused), t) ∧
              164000 < out.length := by
  refine ⟨?_, fun first last width hasks => ?_⟩
  · constructor
    · rintro ⟨out, hout⟩
      obtain ⟨first, last, width, hasks, -⟩ := execute_eq_ok_iff.1 hout
      exact ⟨first, last, width, hasks⟩
    · rintro ⟨first, last, width, hasks⟩
      exact ⟨_, execute_eq_ok_iff.2 ⟨first, last, width, hasks, rfl⟩⟩
  · refine ⟨_, execute_eq_ok_iff.2 ⟨first, last, width, hasks, rfl⟩, fun r s hflags hissued => ?_⟩
    obtain ⟨rawLast, -, -, hbound⟩ := hasks.atLast
    obtain ⟨t, ⟨c, hrun, hcount, hmatch⟩ | ⟨refused, hrun, hroom⟩⟩ :=
      exists_run_held hflags hissued (toList_between hasks.le) (isLone_of_mem_numerals hasks.le)
    · exact ⟨t, .inl ⟨c, hrun, hcount, fun text => (hmatch text).trans (mem_numerals_iff hasks.le)⟩⟩
    · refine ⟨t, .inr ⟨refused, hrun, Nat.lt_of_not_le fun hlen => ?_⟩⟩
      have hle := room_between_le hasks.le hasks.width_le hbound hlen
      omega

/-- The two greatest numbers of 64 bits, with a blank and a plus sign. -/
theorem execute_matches_greatest :
    Asks [" 18446744073709551614", "+18446744073709551615"] 18446744073709551614 18446744073709551615 1 ∧
      ∃ out c t, execute [" 18446744073709551614", "+18446744073709551615"] = .ok out ∧
        (Registry.standard.compile ("^" ++ out ++ "$")).run .empty = (.ok c, t) ∧ c.groupCount = 1 ∧
          c.isMatch "18446744073709551615" ∧ ¬c.isMatch "18446744073709551616" := by
  have hasks : Asks [" 18446744073709551614", "+18446744073709551615"] 18446744073709551614
      18446744073709551615 1 :=
    ⟨⟨_, rfl, by decide +kernel⟩, ⟨_, rfl, by decide +kernel⟩, .inl ⟨rfl, rfl⟩, by decide, by decide, by decide⟩
  have hshort : (alternation 18446744073709551614 18446744073709551615 1).length ≤ 164000 := by decide +kernel
  obtain ⟨-, hmatches⟩ := execute_matches [" 18446744073709551614", "+18446744073709551615"]
  obtain ⟨out, hout, hcompiles⟩ := hmatches _ _ _ hasks
  refine ⟨hasks, out, ?_⟩
  obtain ⟨t, ⟨c, hrun, hcount, hmatch⟩ | ⟨_, -, hlong⟩⟩ := hcompiles .standard .empty rfl (by simp [Store.empty])
  · refine ⟨c, t, hout, hrun, hcount, (hmatch _).2 ⟨18446744073709551615, by decide, by decide, ?_⟩, fun h => ?_⟩
    · decide +kernel
    · obtain ⟨n, hfirst, hlast, htext⟩ := (hmatch _).1 h
      have hvalue := (isNumeral_numeral 1 n).2.2
      rw [numeral, ← htext] at hvalue
      have hgreater : Nat.ofDigitChars 10 "18446744073709551616".toList 0 = 18446744073709551616 := by
        decide +kernel
      omega
  · have hwritten := execute_eq_ok_iff.2 ⟨_, _, _, hasks, rfl⟩
    cases hwritten.symm.trans hout
    omega

theorem numeral_injective (width : Nat) : Function.Injective (numeral width) := by
  intro n k h
  rw [← (isNumeral_numeral width n).2.2, h, (isNumeral_numeral width k).2.2]

theorem numeral_eq_append {d : Nat} (hn : n < 10 ^ d) (hd : 0 < d) (m : Nat) :
    numeral (m + d) n = List.replicate m '0' ++ numeral d n ∧ (numeral d n).length = d := by
  have hdigits : (Nat.toDigits 10 n).length ≤ d := (Nat.length_toDigits_le_iff (by decide) hd).2 hn
  have hzeros : m + d - (Nat.toDigits 10 n).length = m + (d - (Nat.toDigits 10 n).length) := by omega
  refine ⟨?_, by rw [numeral, List.length_leftpad, Nat.max_eq_left hdigits]⟩
  rw [numeral, numeral, List.leftpad, List.leftpad, hzeros, ← List.replicate_append_replicate, List.append_assoc]

/-- Numerals that are alike but for their last digits have their zeros ahead of these, and there the automaton that
runs backwards has states for each of them. -/
theorem le_room_between {d m : Nat} (hlt : first < last) (hlast : last < 10 ^ d) (hd : 0 < d) :
    68 * m * (last + 1 - first) ≤ (heldForm (numeral (m + d) first) (later first last (m + d))).room := by
  let codes (n : Nat) := (numeral (m + d) n).map Char.toNat
  let texts := (List.range' first (last + 1 - first)).map codes
  have hsplit : ∀ n ∈ List.range' first (last + 1 - first),
      numeral (m + d) n = List.replicate m '0' ++ numeral d n ∧ (numeral d n).length = d := by
    intro n hn
    have hbounds := List.mem_range'_1.1 hn
    exact numeral_eq_append (by omega) hd m
  have hlen : ∀ t ∈ texts, t.length = d + m := by
    intro t ht
    obtain ⟨n, hn, rfl⟩ := List.mem_map.1 ht
    obtain ⟨hnumeral, hlength⟩ := hsplit n hn
    rw [List.length_map, hnumeral, List.length_append, List.length_replicate, hlength, Nat.add_comm]
  -- read backwards, the numerals part within their last `d` digits
  have hends : ∀ n ∈ List.range' first (last + 1 - first),
      (codes n).reverse.take d = ((numeral d n).map Char.toNat).reverse := by
    intro n hn
    obtain ⟨hnumeral, hlength⟩ := hsplit n hn
    change ((numeral (m + d) n).map Char.toNat).reverse.take d = _
    rw [hnumeral, List.map_append, List.reverse_append, List.take_append_of_le_length (by simp [hlength]),
      List.take_of_length_le (by simp [hlength])]
  have hdistinct : (texts.map fun t => t.reverse.take d).Nodup := by
    rw [List.map_map]
    refine List.Nodup.map_on (fun n hn k hk h => ?_) List.nodup_range'
    have hsame := (hends n hn).symm.trans (h.trans (hends k hk))
    have hcodes : Function.Injective Char.toNat := fun _ _ => Char.toNat_inj.1
    exact numeral_injective d (List.map_injective_iff.2 hcodes (List.reverse_injective hsame))
  have htexts : (numeral (m + d) first :: later first last (m + d)).map (fun v => v.map Char.toNat) = texts := by
    rw [numerals_eq (Nat.le_of_lt hlt), List.map_map]
    rfl
  have hroom := le_textsRoom hlen hdistinct
  rw [List.length_map, List.length_range'] at hroom
  obtain ⟨v, vs, hlater⟩ : ∃ v vs, later first last (m + d) = v :: vs := by
    refine List.exists_cons_of_length_pos ?_
    rw [later, List.length_map, List.length_range']
    omega
  rw [room_heldForm, hlater, room_wordsForm, ← hlater, htexts]
  omega

/-- The widest alternation that the function writes out is refused by the engine. -/
theorem widest_refused :
    Asks ["0", "9999", "64"] 0 9999 64 ∧ ∃ out t, execute ["0", "9999", "64"] = .ok out ∧
      (Registry.standard.compile ("^" ++ out ++ "$")).run .empty =
        (.error (.pattern ("(?isu)" ++ ("^" ++ out ++ "$"))), t) := by
  have hasks : Asks ["0", "9999", "64"] 0 9999 64 :=
    ⟨⟨_, rfl, by decide +kernel⟩, ⟨_, rfl, by decide +kernel⟩, .inr ⟨_, rfl, by decide +kernel⟩, by decide,
      by decide, by decide⟩
  have hroom : 68 * 60 * (9999 + 1 - 0) ≤ (heldForm (numeral (60 + 4) 0) (later 0 9999 (60 + 4))).room :=
    le_room_between (by decide) (by decide) (by decide)
  have hlimit : roomLimit < 68 * 60 * (9999 + 1 - 0) := by decide
  obtain ⟨t, hrun⟩ := exists_run_held_refused (r := .standard) (s := .empty) rfl (by simp [Store.empty])
    (toList_between hasks.le) (isLone_of_mem_numerals hasks.le) (Nat.lt_of_lt_of_le hlimit hroom)
  exact ⟨hasks, _, t, execute_eq_ok_iff.2 ⟨_, _, _, hasks, rfl⟩, hrun⟩

end NumberRange

end Patchwork
