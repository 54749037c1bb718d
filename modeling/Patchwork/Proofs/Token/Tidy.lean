import Patchwork.Proofs.Token.Lossless

namespace Patchwork

namespace Token

def classCloses : Nat → List Char → Bool
  | _, [] => false
  | _, ['\\'] => false
  | depth, '\\' :: _ :: cs => classCloses depth cs
  | depth, '[' :: cs => classCloses (depth + 1) cs
  | 0, ']' :: _ => true
  | depth + 1, ']' :: cs => classCloses depth cs
  | depth, _ :: cs => classCloses depth cs

def isWhole : Token → Bool
  | charClass s => classCloses 0 (splitClassHead s.toList.tail).2
  | escape s => s ≠ "\\"
  | _ => true

/-- Whether a dollar sign stands before a brace, or the name of an opener before a question mark. -/
def clashes : Token → Option Char → Bool
  | text s, next => s = "$" && next = some '{'
  | namedOpen _ _, next => next = some '?'
  | _, _ => false

def areTidy : List Token → Bool
  | [] => true
  | t :: ts => t.isWhole && !t.clashes (renders ts).head? && areTidy ts

end Token

/-- The tokens of the source are whole and do not clash, and it does not start with a question
mark. -/
def Tidy (source : String) : Prop :=
  Token.areTidy (Token.lex source) ∧ source.toList.head? ≠ some '?'

instance : DecidablePred Tidy := fun source =>
  inferInstanceAs (Decidable (Token.areTidy (Token.lex source) ∧ source.toList.head? ≠ some '?'))

namespace Token

open Marked

/-- The token is read as it stands when that text follows. -/
def Stands : Token → List Char → Prop
  | text s, next =>
    Ordinary s.toList ∨ s = "$" ∧ next.head? ≠ some '{'
  | escape s, _ => ∃ c, s.toList = ['\\', c]
  | charClass s, _ =>
    ∃ cs, s.toList = '[' :: cs ∧ ∀ next, read '[' (cs ++ next) = (charClass s, next)
  | groupOpen, next => next.head? ≠ some '?'
  | namedOpen style name, next =>
    next.head? ≠ some '?' ∧ ∃ cs, (namedOpen style name).chars = '(' :: cs ∧
      ∀ next, read '(' (cs ++ next) = (namedOpen style name, next)
  | specialOpen, next => read '(' ('?' :: next) = (specialOpen, next)
  | reference _, _ => True
  | call _ _, _ => True

def isReplaced : Token → Bool
  | reference _ | call _ _ => true
  | _ => false

theorem splitClass_ordinary {c : Char} (h : c ≠ '\\' ∧ c ≠ '[' ∧ c ≠ ']') (depth : Nat)
    (cs : List Char) :
    splitClass depth (c :: cs) = (c :: (splitClass depth cs).1, (splitClass depth cs).2) := by
  cases depth <;> simp [splitClass, h]

theorem ordinary_of_otherwise {depth : Nat} {c : Char} {cs : List Char} (hlone : c = '\\' → cs = [] → False)
    (hpair : ∀ d ds, c = '\\' → cs = d :: ds → False) (hopen : c ≠ '[') (hclose : depth = 0 → c = ']' → False)
    (hinner : ∀ n, depth = Nat.succ n → c = ']' → False) : c ≠ '\\' ∧ c ≠ '[' ∧ c ≠ ']' := by
  refine ⟨fun e => ?_, hopen, fun e => ?_⟩
  · cases cs with
    | nil => exact hlone e rfl
    | cons d ds => exact hpair d ds e rfl
  · cases depth with
    | zero => exact hclose rfl e
    | succ depth => exact hinner depth rfl e

theorem splitClass_of_closes {depth : Nat} {cs : List Char} (h : classCloses depth cs)
    (next : List Char) :
    splitClass depth (cs ++ next) = ((splitClass depth cs).1, (splitClass depth cs).2 ++ next) := by
  fun_induction classCloses depth cs with
  | case7 depth c cs hlone hpair hopen hclose hinner ih =>
      have hc := ordinary_of_otherwise hlone hpair hopen hclose hinner
      rw [List.cons_append, splitClass_ordinary hc, splitClass_ordinary hc, ih h]
  | _ => simp_all [splitClass]

theorem ne_nil_of_closes {depth : Nat} {cs : List Char} (h : classCloses depth cs) : cs ≠ [] := by
  rintro rfl
  simp [classCloses] at h

theorem splitClassHead_of_ne_nil {cs : List Char} (hne : (splitClassHead cs).2 ≠ [])
    (next : List Char) :
    splitClassHead (cs ++ next) = ((splitClassHead cs).1, (splitClassHead cs).2 ++ next) := by
  fun_cases splitClassHead cs with
  | case1 cs => rfl
  | case2 cs hne' =>
      cases cs with
      | nil => simp [splitClassHead] at hne
      | cons c cs => simp_all [splitClassHead]
  | case3 cs => rfl
  | case4 cs hcaret hcaret' hclose =>
      cases cs with
      | nil => simp [splitClassHead] at hne
      | cons c cs => simp_all [splitClassHead]

theorem stands_readClass {cs : List Char} (h : (readClass cs).1.isWhole) (next : List Char) :
    (readClass cs).1.Stands next := by
  rcases hhead : splitClassHead cs with ⟨head, r⟩
  rcases hinside : splitClass 0 r with ⟨inside, rest⟩
  have hread : (readClass cs).1 = .charClass (String.ofList ('[' :: (head ++ inside))) := by
    simp [readClass, hhead, hinside]
  have hr : inside ++ rest = r := by simpa [hinside] using splitClass_append 0 r
  have hcs : (head ++ inside) ++ rest = cs := by
    simpa [hhead, ← hr] using splitClassHead_append cs
  rw [hread] at h ⊢
  simp only [isWhole, String.toList_ofList, List.tail_cons] at h
  -- the first members are told from the others within the token already
  have hsplit := splitClassHead_of_ne_nil (ne_nil_of_closes h)
  have hfirst : splitClassHead (head ++ inside) = (head, inside) := by
    have heq := (hsplit rest).symm.trans ((congrArg splitClassHead hcs).trans hhead)
    have happ := splitClassHead_append (head ++ inside)
    rw [(Prod.mk.inj heq).1] at happ
    exact Prod.ext (Prod.mk.inj heq).1 (List.append_cancel_left happ)
  rw [hfirst] at h hsplit
  have hclass := splitClass_of_closes h
  have hall : splitClass 0 inside = (inside, []) := by
    have heq := (hclass rest).symm.trans ((congrArg (splitClass 0) hr).trans hinside)
    exact Prod.ext (Prod.mk.inj heq).1 (by simpa using (Prod.mk.inj heq).2)
  refine ⟨head ++ inside, String.toList_ofList, fun next => ?_⟩
  have hopen : read '[' (head ++ inside ++ next) = readClass (head ++ inside ++ next) := by
    simp [read]
  rw [hopen, readClass, hsplit next]
  simp only [hclass next, hall, List.nil_append, List.cons_append]

def IsNoParen (c : Char) : Prop := c ≠ '(' ∧ c ≠ ')'

theorem isNoParen_of_name {c : Char} (h : GroupName.isStart c ∨ GroupName.isPart c) :
    IsNoParen c := by
  have hopen : GroupName.isStart '(' = false ∧ GroupName.isPart '(' = false := by decide
  have hclose : GroupName.isStart ')' = false ∧ GroupName.isPart ')' = false := by decide
  constructor <;> rintro rfl
  · simp [hopen] at h
  · simp [hclose] at h

theorem readName?_of_append {style : NameStyle} {cs rest : List Char} {t : Token}
    (h : readName? style cs = some (t, rest)) :
    ∃ name, t = .namedOpen style (String.ofList name) ∧ cs = name ++ '>' :: rest ∧
      (∀ c ∈ name, IsNoParen c) ∧
      ∀ next, readName? style (name ++ '>' :: next) = some (t, next) := by
  obtain ⟨name, rfl, hcs, hsplit⟩ := readName?_eq_some h
  have hclose : GroupName.isPart '>' = false := by decide
  refine ⟨name, rfl, hcs, fun c hc => isNoParen_of_name (mem_of_splitWord hsplit c hc), ?_⟩
  intro next
  have hname : splitName (name ++ '>' :: next) = some (name, '>' :: next) :=
    splitWord_of_append hsplit hclose next
  simp only [readName?, hname]

theorem stands_readGroup {cs : List Char}
    (h : (readGroup cs).1.clashes (readGroup cs).2.head? = false) :
    (readGroup cs).1.Stands (readGroup cs).2 := by
  fun_cases readGroup cs with
  | case1 cs =>
      cases hname : readName? .plain cs with
      | none => simp [Stands, read, readGroup, hname]
      | some p =>
          obtain ⟨t, rest⟩ := p
          obtain ⟨name, rfl, rfl, -, hread⟩ := readName?_of_append hname
          simp [readGroup, hname, clashes] at h
          refine ⟨by simpa using h, '?' :: '<' :: name ++ ['>'], ?_, fun next => ?_⟩
          · simp [chars_namedOpen, NameStyle.opening]
          · simp [read, readGroup, hread]
  | case2 cs =>
      cases hname : readName? .withP cs with
      | none => simp [Stands, read, readGroup, hname]
      | some p =>
          obtain ⟨t, rest⟩ := p
          obtain ⟨name, rfl, rfl, -, hread⟩ := readName?_of_append hname
          simp [readGroup, hname, clashes] at h
          refine ⟨by simpa using h, '?' :: 'P' :: '<' :: name ++ ['>'], ?_, fun next => ?_⟩
          · simp [chars_namedOpen, NameStyle.opening]
          · simp [read, readGroup, hread]
  | case3 cs hplain hwithP =>
      have hgroup := readGroup.eq_3 cs hplain hwithP
      simp [Stands, read, hgroup]
  | case4 cs _ _ hno =>
      cases cs with
      | nil => simp [Stands]
      | cons c cs =>
          have hc : c ≠ '?' := fun e => hno cs (by rw [e])
          simpa [Stands] using hc

theorem stands_readDollar {cs : List Char}
    (h : (readDollar cs).1.clashes (readDollar cs).2.head? = false) :
    (readDollar cs).1.Stands (readDollar cs).2 := by
  fun_cases readDollar cs with
  | case1 => trivial
  | case2 => trivial
  | case3 inside id more hsplit hclose =>
      have hlone : readDollar ('{' :: inside) = (text "$", '{' :: inside) := by
        simp only [readDollar, hsplit]
      rw [hlone] at h
      simp [clashes] at h
  | case4 inside hreference hcall =>
      have hlone : readDollar ('{' :: inside) = (text "$", '{' :: inside) := by
        simp only [readDollar]
      rw [hlone] at h
      simp [clashes] at h
  | case5 cs hbrace =>
      refine .inr ⟨rfl, fun hnext => ?_⟩
      cases cs with
      | nil => cases hnext
      | cons c cs => exact hbrace cs (congrArg (· :: cs) (Option.some.inj hnext))

theorem stands_read {c : Char} {cs : List Char} (hwhole : (read c cs).1.isWhole)
    (h : (read c cs).1.clashes (read c cs).2.head? = false) :
    (read c cs).1.Stands (read c cs).2 := by
  cases hc : isStructural c with
  | false =>
      rw [read_ordinary hc]
      have hall : ∀ x ∈ c :: cs.takeWhile (!isStructural ·), isStructural x = false :=
        List.forall_mem_cons.2 ⟨hc, fun x hx => by simpa using List.all_eq_true.1 List.all_takeWhile x hx⟩
      exact .inl (by rwa [String.toList_ofList])
  | true =>
      rcases isStructural_cases hc with rfl | rfl | rfl | rfl
      · cases cs with
        | nil => simp [read, readEscape, isWhole] at hwhole
        | cons d ds => exact ⟨d, String.toList_ofList⟩
      · exact stands_readClass hwhole _
      · exact stands_readGroup h
      · exact stands_readDollar h

theorem marks_of_stands {t : Token} {next : List Char} (ht : t.isReplaced = false)
    (h : t.Stands next) : marks (t.chars ++ next) = t.marked ++ marks next := by
  cases t with
  | text s =>
      rcases h with h | ⟨rfl, h⟩
      · exact marks_text h next
      · exact marks_dollar h
  | escape s =>
      obtain ⟨c, hc⟩ := h
      simp only [chars, render, marked, hc]
      exact marks_escape c next
  | charClass s =>
      obtain ⟨cs, hcs, hread⟩ := h
      have hchars : (charClass s).chars = '[' :: cs := hcs
      rw [hchars, List.cons_append, marks_of_read (hread next)]
  | groupOpen => exact marks_open h
  | namedOpen style name =>
      obtain ⟨-, cs, hcs, hread⟩ := h
      rw [hcs, List.cons_append, marks_of_read (hread next)]
  | specialOpen => exact marks_of_read h
  | reference | call => cases ht

end Token

end Patchwork
