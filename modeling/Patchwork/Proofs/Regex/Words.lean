import Patchwork.Proofs.Regex.Anchored
import Patchwork.Proofs.Regex.Room
import Patchwork.Proofs.Wrapping

namespace Patchwork.Regex

open Unicode (CharSet orbit)

/-- The character stands for itself alone: it is no sign, and has no other case. -/
def IsLone (c : Char) : Prop := c ∉ Item.signs ∧ orbit c = [c]

def wordTree (w : List Char) : Tree := .ofPieces (w.map fun c => .literal ⟨c, false⟩)

def wordsTree (w : List Char) (ws : List (List Char)) : Tree := .ofBranches (wordTree w) (ws.map wordTree)

def wordForm : List Char → Form
  | [] => .empty
  | [c] => .chars (.ofList [c])
  | c :: cs => .seq (.chars (.ofList [c])) (wordForm cs)

def wordsForm (w : List Char) : List (List Char) → Form
  | [] => wordForm w
  | v :: ws => .alt (wordForm w) (wordsForm v ws)

def held (w : List Char) (ws : List (List Char)) : List Char :=
  '^' :: '(' :: '?' :: ':' :: (['|'].intercalate (w :: ws) ++ [')', '$'])

def heldTree (changes : List FlagChange) (w : List Char) (ws : List (List Char)) : Tree :=
  .seq (.flags changes) (.seq (.assertion .lineStart)
    (.seq (.group (.scoped []) (wordsTree w ws)) (.assertion .lineEnd)))

def heldForm (w : List Char) (ws : List (List Char)) : Form :=
  .seq .empty (.seq (.look .textStart) (.seq (wordsForm w ws) (.look .textEnd)))

variable {w : List Char} {ws : List (List Char)}

namespace Builder

variable {b : Builder} {cs : List Char} {fuel : Nat}

theorem run_word (hverbose : b.verbose = false) (hw : ∀ c ∈ w, c ∉ Item.signs) :
    run (fuel + w.length) b (w ++ cs) = run fuel { b with
      level := ⟨(w.map fun c => Tree.literal ⟨c, false⟩).reverse ++ b.level.pieces, b.level.branches⟩ } cs := by
  induction w generalizing b with
  | nil => rfl
  | cons c w ih =>
      obtain ⟨hc, hw⟩ := List.forall_mem_cons.1 hw
      have hread : Item.read b.verbose (afterBlanks b.verbose (c :: (w ++ cs))) =
          some (.piece (.literal ⟨c, false⟩), w ++ cs) := by
        rw [hverbose, afterBlanks_false, Item.read_literal hc]
      rw [List.length_cons, ← Nat.add_assoc, List.cons_append, run_of_read hread rfl]
      refine (ih (b := { b with level := b.level.push (.literal ⟨c, false⟩) }) hverbose hw).trans ?_
      simp [Level.push]

/-- Words with bars between them are read as the branches that come next. -/
theorem exists_run_words (hverbose : b.verbose = false) (hpieces : b.level.pieces = [])
    (hws : ∀ v ∈ w :: ws, ∀ c ∈ v, c ∉ Item.signs) :
    ∃ l : Level, run (fuel + (['|'].intercalate (w :: ws)).length) b (['|'].intercalate (w :: ws) ++ cs) =
        run fuel { b with level := l } cs ∧
      (l.branch :: l.branches).reverse = b.level.branches.reverse ++ (w :: ws).map wordTree := by
  induction ws generalizing b w with
  | nil =>
      rw [List.intercalate_singleton, run_word hverbose (hws w (List.mem_singleton_self w)), hpieces,
        List.append_nil]
      exact ⟨_, rfl, by simp [Level.branch, wordTree]⟩
  | cons v ws ih =>
      obtain ⟨hw, hws⟩ := List.forall_mem_cons.1 hws
      have hbar : ∀ cs, Item.read false ('|' :: cs) = some (.bar, cs) := fun _ => rfl
      obtain ⟨l, hrun, hl⟩ := ih (b := { b with level := ⟨[], wordTree w :: b.level.branches⟩ }) hverbose rfl hws
      refine ⟨l, ?_, by rw [hl]; simp⟩
      rw [List.intercalate_cons_cons, ← hrun]
      generalize ['|'].intercalate (v :: ws) = more
      have hlen : fuel + (w ++ ['|'] ++ more).length = fuel + more.length + 1 + w.length := by
        simp only [List.length_append, List.length_singleton]
        omega
      rw [hlen, List.append_assoc, List.append_assoc, run_word hverbose hw, hpieces, List.append_nil]
      refine run_of_read (by rw [hverbose]; exact hbar _) ?_
      simp [push?, Level.bar, Level.branch, wordTree]

theorem exists_run_held {directive : List Char} {changes : List FlagChange}
    (hdirective : ∀ cs, Item.read false (directive ++ cs) = some (.directive changes, cs))
    (hterse : FlagChange.verboseAfter changes false = false) (hws : ∀ v ∈ w :: ws, ∀ c ∈ v, c ∉ Item.signs)
    (hlen : (directive ++ held w ws).length < fuel) :
    ∃ b, run fuel .empty (directive ++ held w ws) = some b ∧ b.outer = [] ∧
      b.level.finish = heldTree changes w ws := by
  have hstart : ∀ cs, Item.read false ('^' :: cs) = some (.piece (.assertion .lineStart), cs) := fun _ => rfl
  have hopen : ∀ cs, Item.read false ('(' :: '?' :: ':' :: cs) = some (.opening (.scoped []), cs) := fun _ => rfl
  have hclose : ∀ cs, Item.read false (')' :: cs) = some (.closing, cs) := fun _ => rfl
  have hend : Item.read false ['$'] = some (.piece (.assertion .lineEnd), []) := rfl
  let ahead : Level := ⟨[.assertion .lineStart, .flags changes], []⟩
  let inside : Builder := ⟨.empty, [⟨ahead, .scoped [], false⟩], false, 0, []⟩
  obtain ⟨l, hrun, hl⟩ : ∃ l : Level,
      run (3 + (['|'].intercalate (w :: ws)).length) inside (['|'].intercalate (w :: ws) ++ [')', '$']) =
          run 3 { inside with level := l } [')', '$'] ∧
        (l.branch :: l.branches).reverse = [] ++ (w :: ws).map wordTree :=
    exists_run_words rfl rfl hws
  have hfinish : l.finish = wordsTree w ws := by
    rw [Level.finish, hl]
    rfl
  let final : Level := ⟨[.assertion .lineEnd, .group (.scoped []) l.finish, .assertion .lineStart, .flags changes],
    []⟩
  have hwhole : run (3 + (['|'].intercalate (w :: ws)).length + 1 + 1 + 1) .empty (directive ++ held w ws) =
      some ⟨final, [], false, 0, []⟩ := by
    have hquiet : (FlagChange.verboseAfter changes Builder.empty.verbose) = false := hterse
    rw [held, run_of_read (hdirective _) rfl, hquiet, run_of_read (hstart _) rfl, run_of_read (hopen _) rfl]
    refine hrun.trans ?_
    rw [run_of_read (hclose _) rfl, run_of_read hend rfl]
    rfl
  refine ⟨_, run_of_length hwhole hlen, rfl, ?_⟩
  rw [heldTree, ← hfinish]
  rfl

end Builder

section Tree

theorem resolve?_wordTree {m : Modes} (hunicode : m.unicode = true) (hfold : m.caseInsensitive = true)
    (hw : ∀ c ∈ w, orbit c = [c]) : (wordTree w).resolve? m = some (wordForm w, m) := by
  have hliteral : ∀ {c : Char}, orbit c = [c] → Literal.resolve? m ⟨c, false⟩ = some (.ofList [c]) := by
    intro c hc
    simp [Literal.resolve?, hunicode, hfold, hc]
  induction w with
  | nil => rfl
  | cons c w ih =>
      obtain ⟨hc, hw⟩ := List.forall_mem_cons.1 hw
      cases w with
      | nil =>
          change (Tree.literal ⟨c, false⟩).resolve? m = _
          simp [Tree.resolve?, hliteral hc, wordForm]
      | cons d w =>
          change (Tree.seq (.literal ⟨c, false⟩) (wordTree (d :: w))).resolve? m = _
          simp [Tree.resolve?, hliteral hc, ih hw, wordForm]

theorem resolve?_wordsTree {m : Modes} (hunicode : m.unicode = true) (hfold : m.caseInsensitive = true)
    (hws : ∀ v ∈ w :: ws, ∀ c ∈ v, orbit c = [c]) : (wordsTree w ws).resolve? m = some (wordsForm w ws, m) := by
  induction ws generalizing w with
  | nil => exact resolve?_wordTree hunicode hfold (hws w (List.mem_singleton_self w))
  | cons v ws ih =>
      obtain ⟨hw, hws⟩ := List.forall_mem_cons.1 hws
      change (Tree.alt (wordTree w) (wordsTree v ws)).resolve? m = _
      simp [Tree.resolve?, resolve?_wordTree hunicode hfold hw, ih hws, wordsForm]

theorem resolve?_heldTree {changes : List FlagChange} {m : Modes} (hchanges : Modes.initial.changeAll changes = m)
    (hunicode : m.unicode = true) (hfold : m.caseInsensitive = true) (hlines : m.multiLine = false)
    (hws : ∀ v ∈ w :: ws, ∀ c ∈ v, orbit c = [c]) :
    (heldTree changes w ws).resolve? .initial = some (heldForm w ws, m) := by
  have hinside : m.changeAll [] = m := rfl
  simp [heldTree, heldForm, Tree.resolve?, hchanges, hinside, resolve?_wordsTree hunicode hfold hws,
    Assertion.resolve, hlines]

theorem depth_wordTree_le (w : List Char) : (wordTree w).depth ≤ 1 := by
  induction w with
  | nil => exact Nat.zero_le _
  | cons c w ih =>
      rcases w with - | ⟨d, - | ⟨e, w⟩⟩
      · exact Nat.zero_le _
      · exact Nat.le_refl _
      · exact Nat.max_le.2 ⟨Nat.le_refl _, ih⟩

theorem depth_alt_le_max (t u : Tree) : (Tree.alt t u).depth ≤ max (t.depth + 1) (u.depth + 1) := by
  cases u <;> simp only [Tree.depth] <;> omega

theorem depth_wordsTree_le (w : List Char) (ws : List (List Char)) : (wordsTree w ws).depth ≤ 2 := by
  induction ws generalizing w with
  | nil => exact Nat.le_trans (depth_wordTree_le w) (Nat.le_succ _)
  | cons v ws ih =>
      have hhead := Nat.succ_le_succ (depth_wordTree_le w)
      cases ws with
      | nil =>
          have hlast := Nat.succ_le_succ (depth_wordTree_le v)
          exact Nat.le_trans (depth_alt_le_max _ _) (Nat.max_le.2 ⟨hhead, hlast⟩)
      | cons u ws => exact Nat.max_le.2 ⟨hhead, ih v⟩

theorem depth_heldTree_le (changes : List FlagChange) (w : List Char) (ws : List (List Char)) :
    (heldTree changes w ws).depth ≤ 4 := by
  have hwords := depth_wordsTree_le w ws
  simp only [heldTree, Tree.depth]
  omega

theorem isTerse_wordTree (w : List Char) : (wordTree w).isTerse = true := by
  induction w with
  | nil => rfl
  | cons c w ih =>
      cases w with
      | nil => rfl
      | cons d w => exact ih

theorem isTerse_wordsTree (w : List Char) (ws : List (List Char)) : (wordsTree w ws).isTerse = true := by
  induction ws generalizing w with
  | nil => exact isTerse_wordTree w
  | cons v ws ih =>
      change ((wordTree w).isTerse && (wordsTree v ws).isTerse) = true
      rw [isTerse_wordTree, ih, Bool.and_self]

theorem isTerse_heldTree {changes : List FlagChange} (hterse : FlagChange.verboseAfter changes false = false)
    (w : List Char) (ws : List (List Char)) : (heldTree changes w ws).isTerse = true := by
  have hinside : FlagChange.verboseAfter [] false = false := rfl
  simp [heldTree, Tree.isTerse, hterse, hinside, isTerse_wordsTree]

theorem lastGroup_wordForm (w : List Char) : (wordForm w).lastGroup = 0 := by
  induction w with
  | nil => rfl
  | cons c w ih =>
      cases w with
      | nil => rfl
      | cons d w => simp [wordForm, Form.lastGroup, ih]

theorem lastGroup_wordsForm (w : List Char) (ws : List (List Char)) : (wordsForm w ws).lastGroup = 0 := by
  induction ws generalizing w with
  | nil => exact lastGroup_wordForm w
  | cons v ws ih => simp [wordsForm, Form.lastGroup, lastGroup_wordForm, ih]

theorem lastGroup_heldForm (w : List Char) (ws : List (List Char)) : (heldForm w ws).lastGroup = 0 := by
  simp [heldForm, Form.lastGroup, lastGroup_wordsForm]

end Tree

section Room

theorem text?_wordForm (w : List Char) : (wordForm w).text? = some (w.map Char.toNat) := by
  induction w with
  | nil => rfl
  | cons c w ih =>
      cases w with
      | nil => simp [wordForm, Form.text?, CharSet.ofList, CharSet.single?]
      | cons d w => simp [wordForm, Form.text?, CharSet.ofList, CharSet.single?, ih]

theorem texts?_wordsForm (w : List Char) (ws : List (List Char)) :
    (wordsForm w ws).texts? = some ((w :: ws).map fun v => v.map Char.toNat) := by
  have hword : ∀ w, (wordForm w).texts? = some [w.map Char.toNat] := by
    intro w
    have htexts : (wordForm w).texts? = (wordForm w).text?.map fun text => [text] := by
      rcases w with - | ⟨c, - | ⟨d, w⟩⟩ <;> rfl
    rw [htexts, text?_wordForm, Option.map_some]
  induction ws generalizing w with
  | nil => exact hword w
  | cons v ws ih => simp [wordsForm, Form.texts?, hword, ih]

theorem room_wordForm_le (w : List Char) : (wordForm w).room ≤ 84 * w.length + 32 := by
  have hchar : ∀ c : Char, (Form.chars (.ofList [c])).room ≤ 84 := by
    intro c
    simp only [Form.room, CharSet.ofList, CharSet.room, CharSet.rangeRoom, List.map_cons, List.map_nil,
      List.flatten_cons, List.flatten_nil, List.append_nil, List.foldl_cons, List.foldl_nil]
    split <;> omega
  induction w with
  | nil => exact Nat.le_refl _
  | cons c w ih =>
      have hc := hchar c
      cases w with
      | nil => exact Nat.le_trans hc (by simp)
      | cons d w =>
          simp only [wordForm, Form.room, List.length_cons] at *
          omega

theorem room_wordsForm (w v : List Char) (ws : List (List Char)) :
    (wordsForm w (v :: ws)).room = textsRoom ((w :: v :: ws).map fun v => v.map Char.toNat) + 40 := by
  have htexts := texts?_wordsForm w (v :: ws)
  simp only [wordsForm] at htexts ⊢
  rw [Form.room, htexts]

theorem room_wordsForm_le {letters : List Nat} (hletters : letters.length ≤ 10) (levels : Nat)
    (hws : ∀ v ∈ w :: ws, ∀ c ∈ v, c.toNat ∈ letters) :
    (wordsForm w ws).room ≤
      max (84 * w.length) (fullRoom levels + 68 * ((w :: ws).map fun v => v.length - levels).sum) + 40 := by
  cases ws with
  | nil =>
      have hroom := room_wordForm_le w
      simp only [wordsForm]
      omega
  | cons v ws =>
      have hcodes : ∀ t ∈ (w :: v :: ws).map fun v => v.map Char.toNat, ∀ n ∈ t, n ∈ letters := by
        intro _ ht n hn
        obtain ⟨u, hu, rfl⟩ := List.mem_map.1 ht
        obtain ⟨c, hc, rfl⟩ := List.mem_map.1 hn
        exact hws u hu c hc
      have hroom := textsRoom_le_of_letters hletters levels hcodes
      simp only [List.map_map, Function.comp_def, List.length_map] at hroom
      rw [room_wordsForm]
      omega

theorem room_heldForm (w : List Char) (ws : List (List Char)) :
    (heldForm w ws).room = (wordsForm w ws).room + 96 := by
  simp only [heldForm, Form.room]
  omega

end Room

section Search

variable {labels n start : Nat} {places : Places} {waiting : List Task} {k : List Frame} {c : Cursor}
  {groups : List (Nat × Span)} {result : Option Task}

theorem settles_char {x : Char} : Settles labels places (⟨.run (.chars (.ofList [x])) :: k, c, groups⟩ :: waiting)
      result ↔
    match c.rest with
    | [] => Settles labels places waiting result
    | y :: rest =>
      if y = x then Settles labels places (⟨k, ⟨some y, rest, c.offset + y.utf8Size⟩, groups⟩ :: waiting) result
      else Settles labels places waiting result := by
  obtain ⟨previous, rest, offset⟩ := c
  cases rest with
  | nil => exact Settles.stuck_iff rfl
  | cons y rest =>
      have hcontains : (CharSet.ofList [x]).contains y = decide (y = x) := CharSet.contains_single x y
      dsimp only
      split
      · next hy => exact Settles.go_iff (by simp [Task.next, Cursor.advance?, hcontains, decide_eq_true hy])
      · next hy => exact Settles.stuck_iff (by simp [Task.next, Cursor.advance?, hcontains, hy])

def ending (start : Nat) : List Frame := [.run (.look .textEnd), .close 0 start]

theorem exists_settles_ending (labels start : Nat) (places : Places) (waiting : List Task) (c : Cursor)
    (groups : List (Nat × Span)) :
    ∃ t, ∀ result, Settles labels places (⟨ending start, c, groups⟩ :: waiting) result ↔
      if c.rest = [] then result = some t else Settles labels places waiting result := by
  refine ⟨⟨[], c, (0, ⟨start, c.offset⟩) :: groups⟩, fun result => ?_⟩
  split
  · next hend =>
      have hstep : Task.next ⟨ending start, c, groups⟩ = .go (some ⟨[.close 0 start], c, groups⟩) := by
        simp [Task.next, Look.holds, ending, hend]
      exact (Settles.go_iff hstep).trans ((Settles.go_iff rfl).trans Settles.accept_iff)
  · next hmore => exact Settles.stuck_iff (by simp [Task.next, Look.holds, ending, hmore])

theorem assemble_wordForm_snd (w : List Char) (n : Nat) : ((wordForm w).assemble n).2 = n := by
  induction w with
  | nil => rfl
  | cons c w ih =>
      cases w with
      | nil => rfl
      | cons d w => exact ih

/-- A word leads to the end where it is all that follows; else the search goes on with what waits. -/
theorem exists_settles_word (labels n start : Nat) (places : Places) (waiting : List Task) (c : Cursor)
    (groups : List (Nat × Span)) (w : List Char) :
    ∃ t, ∀ result, Settles labels places (⟨.run ((wordForm w).assemble n).1 :: ending start, c, groups⟩ :: waiting)
        result ↔ if c.rest = w then result = some t else Settles labels places waiting result := by
  induction w generalizing c with
  | nil =>
      obtain ⟨t, ht⟩ := exists_settles_ending labels start places waiting c groups
      exact ⟨t, fun result => (Settles.go_iff rfl).trans (ht result)⟩
  | cons x w ih =>
      -- one character, and then what is left of the word
      have hsplit : ∀ {k : List Frame}, (∀ c', ∃ t, ∀ result,
          Settles labels places (⟨k, c', groups⟩ :: waiting) result ↔
            if c'.rest = w then result = some t else Settles labels places waiting result) →
          ∃ t, ∀ result, Settles labels places (⟨.run (.chars (.ofList [x])) :: k, c, groups⟩ :: waiting) result ↔
            if c.rest = x :: w then result = some t else Settles labels places waiting result := by
        intro k hk
        rcases hrest : c.rest with - | ⟨y, rest⟩
        · exact ⟨⟨[], c, []⟩, fun result => by rw [settles_char, hrest]; simp⟩
        · obtain ⟨t, ht⟩ := hk ⟨some y, rest, c.offset + y.utf8Size⟩
          refine ⟨t, fun result => ?_⟩
          rw [settles_char, hrest]
          by_cases hy : y = x
          · simp [hy, ← ht result]
          · simp [hy]
      cases w with
      | nil => exact hsplit fun c' => exists_settles_ending labels start places waiting c' groups
      | cons y w =>
          obtain ⟨t, ht⟩ := hsplit fun c' => ih c'
          exact ⟨t, fun result => (Settles.go_iff rfl).trans (ht result)⟩

/-- The words are tried one after another. All choices are made at the same place, each with a label of its own,
and so none is taken for one that has been met. -/
theorem exists_settles_words (labels n start : Nat) (c : Cursor) (groups : List (Nat × Span)) (w : List Char)
    (ws : List (List Char)) (hfresh : ∀ place, places.contains place → place < c.offset * labels + n) :
    ∃ result, Settles labels places [⟨.run ((wordsForm w ws).assemble n).1 :: ending start, c, groups⟩] result ∧
      (result.isSome ↔ c.rest ∈ w :: ws) := by
  induction ws generalizing w n places with
  | nil =>
      obtain ⟨t, ht⟩ := exists_settles_word labels n start places [] c groups w
      by_cases hw : c.rest = w
      · exact ⟨some t, (ht _).2 (by rw [if_pos hw]), by simp [hw]⟩
      · exact ⟨none, (ht _).2 (by rw [if_neg hw]; exact .nil), by simp [hw]⟩
  | cons v ws ih =>
      have hnew : places.contains (c.offset * labels + n) = false :=
        Bool.eq_false_iff.2 fun h => Nat.lt_irrefl _ (hfresh _ h)
      have hfresh' : ∀ place, (places.insert (c.offset * labels + n)).contains place →
          place < c.offset * labels + (n + 1) := by
        intro place hplace
        rw [Std.TreeSet.contains_insert, Bool.or_eq_true, beq_iff_eq] at hplace
        rcases hplace with heq | hplace
        · have heq := Nat.compare_eq_eq.1 heq
          omega
        · have hlt := hfresh place hplace
          omega
      -- the labels of the words that follow are greater, so what is marked here is met by none of them
      have hchoose : ∀ result, Settles labels places
          [⟨.run ((wordsForm w (v :: ws)).assemble n).1 :: ending start, c, groups⟩] result ↔
            Settles labels (places.insert (c.offset * labels + n))
              [⟨.run ((wordForm w).assemble (n + 1)).1 :: ending start, c, groups⟩,
                ⟨.run ((wordsForm v ws).assemble ((wordForm w).assemble (n + 1)).2).1 :: ending start, c, groups⟩]
              result := fun _ => Settles.choose_iff rfl hnew
      rw [assemble_wordForm_snd] at hchoose
      obtain ⟨t, ht⟩ := exists_settles_word labels (n + 1) start (places.insert (c.offset * labels + n))
        [⟨.run ((wordsForm v ws).assemble (n + 1)).1 :: ending start, c, groups⟩] c groups w
      by_cases hw : c.rest = w
      · exact ⟨some t, (hchoose _).2 ((ht _).2 (by rw [if_pos hw])), by simp [hw]⟩
      · obtain ⟨result, hresult, hiff⟩ := ih (n + 1) v hfresh'
        refine ⟨result, (hchoose _).2 ((ht _).2 (by rw [if_neg hw]; exact hresult)), ?_⟩
        rw [hiff, List.mem_cons (a := c.rest) (b := w)]
        simp [hw]

/-- What the engine finds between the ends of the text are just the words. -/
theorem isSome_runFrom_held (w : List Char) (ws : List (List Char)) (cs : List Char) :
    ((Form.capture 0 (heldForm w ws)).machine.runFrom none 0 cs).isSome ↔ cs ∈ w :: ws := by
  have hanchors : (heldForm w ws).Anchors (.seq (wordsForm w ws) (.look .textEnd)) := .head _
  let c : Cursor := ⟨none, cs, 0⟩
  let labels := (Form.capture 0 (heldForm w ws)).machine.labels
  have hnone : ∀ place, (Std.TreeSet.empty : Places).contains place → place < c.offset * labels + 0 :=
    fun place h => by cases Std.TreeSet.contains_emptyc.symm.trans h
  obtain ⟨result, hresult, hiff⟩ := exists_settles_words labels 0 0 c [] w ws hnone
  have hrun := (Settles.go_iff rfl).1 ((Form.capture 0 (heldForm w ws)).settles_runAt c)
  have hwords := (Settles.go_iff rfl).1 ((hanchors.settles_iff rfl).1 hrun)
  rw [hanchors.runFrom_eq, hwords.unique hresult]
  exact hiff

end Search

section Compile

def standardChanges : List FlagChange := [⟨.caseInsensitive, true⟩, ⟨.dotAll, true⟩, ⟨.unicode, true⟩]

theorem read_standard (cs : List Char) : Item.read false (ModeFlags.standard.directive.toList ++ cs) =
    some (.directive standardChanges, cs) := rfl

variable {body : String}

theorem parse?_held (hbody : body.toList = held w ws) (hws : ∀ v ∈ w :: ws, ∀ c ∈ v, IsLone c) :
    Tree.parse? (ModeFlags.standard.directive ++ body).toList = some (heldTree standardChanges w ws) ∧
      ∃ after, (heldTree standardChanges w ws).resolve? .initial = some (heldForm w ws, after) := by
  have hsigns : ∀ v ∈ w :: ws, ∀ c ∈ v, c ∉ Item.signs := fun v hv c hc => (hws v hv c hc).1
  have horbit : ∀ v ∈ w :: ws, ∀ c ∈ v, orbit c = [c] := fun v hv c hc => (hws v hv c hc).2
  obtain ⟨b, hrun, hclosed, hfinish⟩ :=
    Builder.exists_run_held read_standard rfl hsigns (Nat.lt_succ_self (_ ++ held w ws).length)
  rw [← hbody, ← String.toList_append] at hrun
  exact ⟨hfinish ▸ parse?_of_run hrun hclosed, _, resolve?_heldTree rfl rfl rfl rfl horbit⟩

theorem compile?_held (hbody : body.toList = held w ws) (hws : ∀ v ∈ w :: ws, ∀ c ∈ v, IsLone c) :
    compile? (ModeFlags.standard.directive ++ body) =
      if (heldForm w ws).room > roomLimit then none
      else some ⟨ModeFlags.standard.directive ++ body, (Form.capture 0 (heldForm w ws)).machine, 1⟩ := by
  obtain ⟨hparse, after, hresolve⟩ := parse?_held hbody hws
  have hdepth : ¬(heldTree standardChanges w ws).depth > nestLimit :=
    Nat.not_lt.2 (Nat.le_trans (depth_heldTree_le _ w ws) (by decide))
  simp only [compile?, form?, hparse, hresolve, Option.bind_eq_bind, Option.bind_some, if_neg hdepth]
  split
  · rfl
  · rw [Option.pure_def, Option.bind_some, lastGroup_heldForm]
    rfl

theorem terse_held (hbody : body.toList = held w ws) (hws : ∀ v ∈ w :: ws, ∀ c ∈ v, IsLone c) :
    (Tree.parse? (ModeFlags.standard.directive ++ body).toList).all Tree.isTerse := by
  rw [(parse?_held hbody hws).1]
  exact isTerse_heldTree rfl w ws

theorem roomy_held (hbody : body.toList = held w ws) (hws : ∀ v ∈ w :: ws, ∀ c ∈ v, IsLone c)
    (hroom : (heldForm w ws).room + 64 ≤ roomLimit) : roomy (ModeFlags.standard.directive ++ body) := by
  obtain ⟨hparse, after, hresolve⟩ := parse?_held hbody hws
  have hdepth := depth_heldTree_le standardChanges w ws
  exact (roomy_iff hparse hresolve).2 ⟨Nat.le_trans (Nat.add_le_add_right hdepth 2) (by decide), hroom⟩

end Compile

end Patchwork.Regex
