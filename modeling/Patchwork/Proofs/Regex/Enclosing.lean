import Patchwork.Proofs.Regex.Anchored
import Patchwork.Proofs.Regex.Shifting

namespace Patchwork.Regex

open Token

/-- A closing parenthesis has been put behind the text. A comment at its end may have taken that. -/
def Closes (cs ds : List Char) : Prop := ds = cs ++ [')'] ∨ cs = [] ∧ ds = []

theorem Closes.skipBlanks (comment : Bool) (cs : List Char) :
    Closes (skipBlanks comment cs) (Regex.skipBlanks comment (cs ++ [')'])) := by
  fun_induction Regex.skipBlanks comment cs with
  | case1 comment =>
      cases comment with
      | true => exact .inr ⟨rfl, rfl⟩
      | false => exact .inl rfl
  | case2 c cs ih => exact ih
  | case3 c cs hspace ih => simpa [Regex.skipBlanks, hspace] using ih
  | case4 cs hspace ih => simpa [Regex.skipBlanks, hspace] using ih
  | case5 c cs hspace hc => exact .inl (by simp [Regex.skipBlanks, hspace, hc])

theorem peekPastBlanks_append (comment : Bool) (cs : List Char) :
    peekPastBlanks comment (cs ++ [')']) = (peekPastBlanks comment cs).or (some ')') := by
  fun_induction peekPastBlanks comment cs with
  | case1 comment => cases comment <;> rfl
  | case2 comment c cs hspace ih => simpa [peekPastBlanks, hspace] using ih
  | case3 comment c cs hspace hc ih => simpa [peekPastBlanks, hspace, hc] using ih
  | case4 comment c cs hspace hc => simp [peekPastBlanks, hspace, hc]

theorem peek_append (v : Bool) (cs : List Char) : peek v (cs ++ [')']) = (peek v cs).or (some ')') := by
  cases v with
  | true => exact peekPastBlanks_append false cs
  | false => cases cs <;> rfl

theorem peek_append_iff {v : Bool} {cs : List Char} {c : Char} (hc : IsNoParen c) :
    peek v (cs ++ [')']) = some c ↔ peek v cs = some c := by
  rw [peek_append]
  cases peek v cs with
  | some d => exact Iff.rfl
  | none => exact ⟨fun h => absurd (Option.some.inj h).symm hc.2, fun h => by cases h⟩

theorem tracks_closes (v : Bool) : Tracks v 0 Closes where
  nil h _ := by
    rcases h with rfl | ⟨-, rfl⟩
    · exact ends_close []
    · exact ends_nil
  head h := by
    rcases h with rfl | ⟨h, -⟩
    · exact ⟨_, rfl⟩
    · cases h
  tail h _ := by
    rcases h with h | ⟨h, -⟩
    · exact .inl (List.cons.inj h).2
    · cases h
  blanks {cs ds} h := by
    cases v with
    | false => exact h
    | true =>
        rcases h with rfl | ⟨rfl, rfl⟩
        · exact .skipBlanks false cs
        · exact .inr ⟨rfl, rfl⟩
  peeks h _ hc := by
    rcases h with rfl | ⟨rfl, rfl⟩
    · exact peek_append_iff hc
    · exact Iff.rfl

theorem Closes.length_le {cs ds : List Char} (h : Closes cs ds) : cs.length ≤ ds.length := by
  rcases h with rfl | ⟨rfl, rfl⟩
  · simp
  · exact Nat.le_refl _

theorem tracks_append : Tracks false 0 fun cs ds => ds = cs ++ [')'] where
  nil h _ := by
    rw [h]
    exact ends_close []
  head h := ⟨_, h⟩
  tail h _ := (List.cons.inj h).2
  blanks h := h
  peeks h _ hc := by
    rw [h]
    exact peek_append_iff hc

def linesEnd : List Char → Bool
  | [] => true
  | c :: cs => (c ≠ '#' || decide ('\n' ∈ cs)) && linesEnd cs

/-- A closing parenthesis has been put behind a text that may be a comment only up to a line break. -/
def ClosesLines (cs ds : List Char) : Prop := ds = cs ++ [')'] ∧ linesEnd cs

theorem ClosesLines.skipBlanks {comment : Bool} {cs : List Char} (h : linesEnd cs)
    (hbreak : comment = true → '\n' ∈ cs) :
    ClosesLines (skipBlanks comment cs) (Regex.skipBlanks comment (cs ++ [')'])) := by
  fun_induction Regex.skipBlanks comment cs with
  | case1 comment =>
      cases comment with
      | true => cases hbreak rfl
      | false => exact ⟨rfl, rfl⟩
  | case2 c cs ih =>
      refine ih (Bool.and_eq_true _ _ ▸ h).2 fun hc => ?_
      exact (List.mem_cons.1 (hbreak rfl)).resolve_left (Ne.symm (of_decide_eq_true hc))
  | case3 c cs hspace ih =>
      have hrest := ih (Bool.and_eq_true _ _ ▸ h).2 (by simp)
      simpa [Regex.skipBlanks, hspace] using hrest
  | case4 cs hspace ih =>
      obtain ⟨hsign, hcs⟩ := (Bool.and_eq_true _ _ ▸ h)
      have hrest := ih hcs fun _ => by simpa using hsign
      simpa [Regex.skipBlanks, hspace] using hrest
  | case5 c cs hspace hc => exact ⟨by simp [Regex.skipBlanks, hspace, hc], h⟩

theorem tracks_closesLines (v : Bool) : Tracks v 0 ClosesLines where
  nil h _ := by
    rw [h.1]
    exact ends_close []
  head h := ⟨_, h.1⟩
  tail h _ := ⟨(List.cons.inj h.1).2, (Bool.and_eq_true _ _ ▸ h.2).2⟩
  blanks h := by
    cases v with
    | false => exact h
    | true =>
        obtain ⟨rfl, h⟩ := h
        exact ClosesLines.skipBlanks h (by simp)
  peeks h _ hc := by
    rw [h.1]
    exact peek_append_iff hc

inductive IsLead : List Tree → Prop where
  | nothing : IsLead []
  | directive (changes : List FlagChange) : IsLead [.flags changes]

def Modes.behind (m : Modes) : List Tree → Modes
  | .flags changes :: _ => m.changeAll changes
  | _ => m

theorem IsLead.isDirective {lead : List Tree} (h : IsLead lead) : ∀ t ∈ lead, t.isDirective := by
  cases h with
  | nothing => simp
  | directive changes => simp [Tree.isDirective]

inductive Level.Leads (lead : List Tree) : Level → Level → Prop where
  | pieces (ts : List Tree) : Leads lead ⟨ts ++ lead, []⟩ ⟨ts, []⟩
  | branches (ts us : List Tree) (bs : List Tree) :
      Leads lead ⟨ts, bs ++ [.ofPieces (lead.reverse ++ us)]⟩ ⟨ts, bs ++ [.ofPieces us]⟩

theorem Level.Leads.push {lead : List Tree} {l l' : Level} (h : l.Leads lead l') (t : Tree) :
    (l.push t).Leads lead (l'.push t) := by
  cases h with
  | pieces ts => exact .pieces (t :: ts)
  | branches ts us bs => exact .branches (t :: ts) us bs

theorem Level.Leads.bar {lead : List Tree} {l l' : Level} (h : l.Leads lead l') : l.bar.Leads lead l'.bar := by
  cases h with
  | pieces ts =>
      have hbranch : (ts ++ lead).reverse = lead.reverse ++ ts.reverse := List.reverse_append
      have hlevel : Level.Leads lead ⟨[], [.ofPieces (lead.reverse ++ ts.reverse)]⟩
          ⟨[], [.ofPieces ts.reverse]⟩ := .branches [] ts.reverse []
      rwa [← hbranch] at hlevel
  | branches ts us bs => exact .branches [] us (.ofPieces ts.reverse :: bs)

namespace Builder

/-- The levels from the innermost out: the same, but that the first of the outermost has pieces at its start,
and that the second stands in groups of its own, if any. -/
inductive Sheathed (lead : List Tree) (base : List OpenGroup) :
    Level → List OpenGroup → Level → List OpenGroup → Prop where
  | bottom {l l' : Level} (h : l.Leads lead l') : Sheathed lead base l [] l' base
  | inner {l l' : Level} {outer outer' : List OpenGroup} (h : Sheathed lead base l outer l' outer') (k : Level)
      (kind : GroupKind) (verbose : Bool) :
      Sheathed lead base k (⟨l, kind, verbose⟩ :: outer) k (⟨l', kind, verbose⟩ :: outer')

structure Sheathes (lead : List Tree) (base : List OpenGroup) (own x : Builder) : Prop where
  levels : Sheathed lead base own.level own.outer x.level x.outer
  verbose : x.verbose = own.verbose
  captures : x.captures = own.captures
  names : x.names = own.names

variable {lead : List Tree} {base : List OpenGroup} {g : OpenGroup} {own own' x x' b : Builder}
  {item : Item} {cs ds : List Char} {l l' : Level} {outer outer' : List OpenGroup}

theorem Sheathed.push (h : Sheathed lead base l outer l' outer') (t : Tree) :
    Sheathed lead base (l.push t) outer (l'.push t) outer' := by
  cases h with
  | bottom h => exact .bottom (h.push t)
  | inner h k kind verbose => exact .inner h _ kind verbose

theorem Sheathed.bar (h : Sheathed lead base l outer l' outer') : Sheathed lead base l.bar outer l'.bar outer' := by
  cases h with
  | bottom h => exact .bottom h.bar
  | inner h k kind verbose => exact .inner h _ kind verbose

/-- An operator applies to the same piece in both, since those at the start are directives. -/
theorem Sheathed.replace (h : Sheathed lead base l outer l' outer') (hlead : IsLead lead) {t : Tree}
    {ts : List Tree} (hpieces : l.pieces = t :: ts) (ht : t.isDirective = false) (u : Tree) :
    ∃ ts', l'.pieces = t :: ts' ∧
      Sheathed lead base { l with pieces := u :: ts } outer { l' with pieces := u :: ts' } outer' := by
  cases h with
  | bottom h =>
      cases h with
      | pieces us =>
          cases us with
          | nil =>
              have hmem : t ∈ lead := (show lead = t :: ts from hpieces) ▸ List.mem_cons_self
              rw [hlead.isDirective t hmem] at ht
              cases ht
          | cons t' us =>
              obtain ⟨rfl, rfl⟩ := List.cons.inj hpieces
              exact ⟨us, rfl, .bottom (.pieces (u :: us))⟩
      | branches us vs bs =>
          obtain rfl : us = t :: ts := hpieces
          exact ⟨ts, rfl, .bottom (.branches (u :: ts) vs bs)⟩
  | inner h k kind verbose => exact ⟨ts, hpieces, .inner h _ kind verbose⟩

theorem Sheathes.push? (h : Sheathes lead base own x) (hlead : IsLead lead)
    (hpush : own.push? item = some own') : ∃ x', x.push? item = some x' ∧ Sheathes lead base own' x' := by
  obtain ⟨hlevels, hverbose, hcaptures, hnames⟩ := h
  cases item with
  | piece t =>
      cases hpush
      exact ⟨_, rfl, hlevels.push t, hverbose, hcaptures, hnames⟩
  | operator min max greedy =>
      obtain ⟨t, ts, hpieces, ht, rfl⟩ := exists_of_repeatLast? hpush
      obtain ⟨ts', hpieces', hlevels⟩ := hlevels.replace hlead hpieces ht (.repeat min max greedy t)
      exact ⟨_, repeatLast?_of_pieces hpieces' ht min max greedy, hlevels, hverbose, hcaptures, hnames⟩
  | directive changes =>
      cases hpush
      exact ⟨_, rfl, hlevels.push _, congrArg (FlagChange.verboseAfter changes) hverbose, hcaptures, hnames⟩
  | opening o =>
      cases o with
      | capture name =>
          obtain ⟨hfresh, rfl⟩ := openGroup?_capture_eq_some.1 hpush
          rw [← hnames] at hfresh
          refine ⟨_, openGroup?_capture_eq_some.2 ⟨hfresh, rfl⟩, ?_, hverbose, congrArg (· + 1) hcaptures,
            congrArg (name.toList ++ ·) hnames⟩
          dsimp only
          rw [hcaptures, hverbose]
          exact .inner hlevels .empty _ _
      | «scoped» changes =>
          cases hpush
          refine ⟨_, rfl, ?_, congrArg (FlagChange.verboseAfter changes) hverbose, hcaptures, hnames⟩
          dsimp only
          rw [hverbose]
          exact .inner hlevels .empty _ _
  | bar =>
      cases hpush
      exact ⟨_, rfl, hlevels.bar, hverbose, hcaptures, hnames⟩
  | closing =>
      obtain ⟨level, outer, verbose, captures, names⟩ := own
      obtain ⟨level', outer', verbose', captures', names'⟩ := x
      cases hlevels with
      -- with no group open, the first takes no closing parenthesis
      | bottom h => cases hpush
      | inner h k kind verbose =>
          cases hpush
          exact ⟨_, rfl, h.push _, rfl, hcaptures, hnames⟩

/-- Two texts are read alike in step, the second in the group and by itself, until the first ends. -/
theorem Sheathes.run {fuel : Nat} {R : List Char → List Char → Prop} (h : Sheathes lead base own x)
    (hlead : IsLead lead) (hlen : ∀ {cs ds}, R cs ds → cs.length ≤ ds.length) (hplain : Tracks false 0 R)
    (hverbose : Tracks true 0 R ∨ own.Steady ∧ own'.Settled) (hR : R cs ds)
    (hrun : run fuel own cs = some own') :
    ∃ x' ds' k, Sheathes lead base own' x' ∧ R [] (afterBlanks x'.verbose ds') ∧ k < fuel ∧
      ∀ more, Builder.run (more + k) x ds = Builder.run more x' ds' ∧
        Builder.run (more + k) own ds = Builder.run more own' ds' := by
  induction fuel generalizing own x cs ds with
  | zero => cases hrun
  | succ fuel ih =>
      have htracks : Tracks x.verbose 0 R := by
        rcases hverbose with hverbose | ⟨hsteady, -⟩
        · cases x.verbose with
          | true => exact hverbose
          | false => exact hplain
        · rwa [h.verbose, hsteady.verbose]
      have hblanks := htracks.blanks hR
      have hcases := run_cases hrun
      rw [← h.verbose] at hcases
      rcases hcases with ⟨hnil, rfl⟩ | ⟨item, rest, next, hread, hpush, hrun⟩
      · rw [hnil] at hblanks
        exact ⟨x, ds, 0, h, hblanks, Nat.succ_pos _, fun more => ⟨rfl, rfl⟩⟩
      · obtain ⟨rest', hread', hrest⟩ :=
          htracks.readItem (.inr ⟨Nat.zero_le 1, hlen⟩) hblanks hread (Nat.zero_le _)
        obtain ⟨x₁, hpush', hx₁⟩ := h.push? hlead hpush
        have hnext : Tracks true 0 R ∨ next.Steady ∧ own'.Settled := hverbose.imp_right fun hterse => by
          have hpush := pushes_of_push? hpush
          obtain ⟨-, hitem⟩ := hpush.settled (settled_of_run hrun hterse.2)
          exact ⟨hpush.steady hitem hterse.1, hterse.2⟩
        obtain ⟨x', ds', k, hx', hend, hk, hmore⟩ := ih hx₁ hnext hrest hrun
        refine ⟨x', ds', k + 1, hx', hend, Nat.succ_lt_succ hk, fun more => ?_⟩
        obtain ⟨hx, hown⟩ := hmore more
        rw [← hx, ← hown, ← Nat.add_assoc, run_of_read hread' hpush']
        rw [h.verbose] at hread'
        exact ⟨rfl, run_of_read hread' hpush⟩

theorem run_unique {fuel fuel' : Nat} (h : Builder.run fuel x ds = some b)
    (h' : Builder.run fuel' x ds = some x') : b = x' := by
  rcases Nat.le_total fuel fuel' with hle | hle
  · exact Option.some.inj ((run_mono h hle).symm.trans h')
  · exact Option.some.inj (h.symm.trans (run_mono h' hle))

/-- Where the first has no open group, the second has its own ones and no other. -/
theorem Sheathes.of_closed (h : Sheathes lead base own x) (hclosed : own.outer = []) :
    own.level.Leads lead x.level ∧ x.outer = base := by
  obtain ⟨hlevels, -, -, -⟩ := h
  rw [hclosed] at hlevels
  generalize x.level = l at hlevels
  generalize x.outer = outer at hlevels
  cases hlevels with
  | bottom h => exact ⟨h, rfl⟩

theorem run_close {fuel : Nat} (houter : x.outer = [g]) (hds : afterBlanks x.verbose ds = [')']) :
    Builder.run (fuel + 2) x ds = some { x with
      level := g.before.push (.group g.kind x.level.finish)
      outer := []
      verbose := g.verbose } := by
  have hread : Item.read x.verbose (afterBlanks x.verbose ds) = some (.closing, []) := by
    rw [hds]
    rfl
  have hpush : x.push? .closing = some { x with
      level := g.before.push (.group g.kind x.level.finish)
      outer := []
      verbose := g.verbose } :=
    closeGroup?_eq_some.2 ⟨g, [], houter, rfl⟩
  rw [run_of_read hread hpush, run_of_blank (afterBlanks_nil _)]

/-- By itself, a text that is read to its end has no group that the parenthesis could close. -/
theorem run_surplus {ds' : List Char} {k : Nat}
    (hmore : ∀ more, Builder.run (more + k) own ds = Builder.run more own' ds') (hclosed : own'.outer = [])
    (hds : afterBlanks own'.verbose ds' = [')']) (fuel : Nat) : Builder.run fuel own ds = none := by
  have hnone : Builder.run fuel own' ds' = none := by
    cases fuel with
    | zero => rfl
    | succ fuel =>
        refine Option.eq_none_iff_forall_ne_some.2 fun b hb => ?_
        rcases run_cases hb with ⟨hnil, -⟩ | ⟨item, rest, next, hread, hpush, -⟩
        · cases hds.symm.trans hnil
        · rw [hds] at hread
          cases hread
          obtain ⟨g, outer, houter, -⟩ := closeGroup?_eq_some.1 hpush
          cases hclosed.symm.trans houter
  refine Option.eq_none_iff_forall_ne_some.2 fun b hb => ?_
  cases ((hmore fuel).trans hnone).symm.trans (run_mono hb (Nat.le_add_right fuel k))

/-- Where the parenthesis put behind it is never taken for a comment, a text that is read to its end is not
read any more. -/
theorem Sheathes.refuses {fuel : Nat} {R : List Char → List Char → Prop} (h : Sheathes lead base own x)
    (hlead : IsLead lead) (hplain : Tracks false 0 R) (hverbose : Tracks true 0 R ∨ own.Steady ∧ own'.Settled)
    (hclose : ∀ {cs ds}, R cs ds → ds = cs ++ [')']) (hR : R cs ds)
    (hown : Builder.run fuel own cs = some own') (hclosed : own'.outer = []) (fuel' : Nat) :
    Builder.run fuel' own ds = none := by
  have hlen : ∀ {cs ds}, R cs ds → cs.length ≤ ds.length := fun hR => by simp [hclose hR]
  obtain ⟨x', ds', k, hx', hend, -, hmore⟩ := h.run hlead hlen hplain hverbose hR hown
  have hds : afterBlanks own'.verbose ds' = [')'] := by
    rw [← hx'.verbose]
    exact hclose hend
  exact run_surplus (fun more => (hmore more).2) hclosed hds fuel'

/-- A parenthesis is put behind a text that is read to its end by itself. It closes the group in which the text
stands, and by itself the text is not read with it; or a comment takes it both times. -/
theorem Sheathes.closes {fuel : Nat} (h : Sheathes lead [g] own x) (hlead : IsLead lead)
    (hown : Builder.run fuel own cs = some own') (hclosed : own'.outer = []) :
    (∃ l b, own'.level.Leads lead l ∧ Builder.run (fuel + 1) x (cs ++ [')']) = some b ∧ b.outer = [] ∧
        b.level = g.before.push (.group g.kind l.finish) ∧
          ∀ fuel', Builder.run fuel' own (cs ++ [')']) = none) ∨
      (∃ b, Builder.run (fuel + 1) x (cs ++ [')']) = some b ∧ b.outer = [g]) ∧
        Builder.run (fuel + 1) own (cs ++ [')']) = some own' := by
  have hcloses : Closes cs (cs ++ [')']) := .inl rfl
  obtain ⟨x', ds', k, hx', hend, hk, hmore⟩ := h.run hlead Closes.length_le (tracks_closes false)
    (.inl (tracks_closes true)) hcloses hown
  obtain ⟨hleads, houter⟩ := hx'.of_closed hclosed
  rcases hend with hds | ⟨-, hds⟩
  · have hx := (hmore 2).1
    rw [run_close houter hds] at hx
    rw [hx'.verbose] at hds
    exact .inl ⟨x'.level, _, hleads, run_mono hx (by omega), rfl, rfl,
      run_surplus (fun more => (hmore more).2) hclosed hds⟩
  · obtain ⟨hx, hown'⟩ := hmore 1
    rw [run_of_blank hds] at hx
    rw [hx'.verbose] at hds
    rw [run_of_blank hds] at hown'
    exact .inr ⟨⟨x', run_mono hx (by omega), houter⟩, run_mono hown' (by omega)⟩

/-- A text that is read by itself to its end and, in a group, to the end of the group, is read into the
same tree in both, but for what was read ahead of it. -/
theorem Sheathes.leads {fuel fuel' : Nat} (h : Sheathes lead [g] own x) (hlead : IsLead lead)
    (hown : Builder.run fuel own cs = some own') (hclosed : own'.outer = [])
    (hx : Builder.run fuel' x (cs ++ [')']) = some b) (hb : b.outer = []) :
    ∃ l, own'.level.Leads lead l ∧ b.level = g.before.push (.group g.kind l.finish) := by
  rcases h.closes hlead hown hclosed with ⟨l, b', hleads, hrun, -, hlevel, -⟩ | ⟨⟨b', hrun, houter⟩, -⟩
  · rw [run_unique hx hrun]
    exact ⟨l, hleads, hlevel⟩
  · rw [run_unique hx hrun, houter] at hb
    cases hb

def ahead (lead : List Tree) : Builder := ⟨⟨lead, []⟩, [], false, 0, []⟩

def within (lead : List Tree) : Builder :=
  ⟨.empty, [⟨⟨.assertion .textStart :: lead, []⟩, .scoped [], false⟩], false, 0, []⟩

theorem sheathes_within (lead : List Tree) :
    Sheathes lead [⟨⟨.assertion .textStart :: lead, []⟩, .scoped [], false⟩] (ahead lead) (within lead) :=
  ⟨.bottom (.pieces []), rfl, rfl, rfl⟩

theorem run_within (lead : List Tree) (fuel : Nat) (cs : List Char) :
    Builder.run (fuel + 2) (ahead lead) ('\\' :: 'A' :: '(' :: '?' :: ':' :: cs) =
      Builder.run fuel (within lead) cs := by
  have hanchor : ∀ ds, Item.read false ('\\' :: 'A' :: ds) = some (.piece (.assertion .textStart), ds) :=
    fun _ => rfl
  have hopen : ∀ ds, Item.read false ('(' :: '?' :: ':' :: ds) = some (.opening (.scoped []), ds) :=
    fun _ => rfl
  rw [run_of_read (hanchor _) rfl, run_of_read (hopen _) rfl]
  rfl

end Builder

section Forms

open Patchwork.Regex.Tree

variable {m : Modes} {changes : List FlagChange} {f : Form} {after : Modes} {l l' : Level} {lead : List Tree}

/-- A directive ahead of a branch leaves an empty form there, if it leaves anything. -/
theorem Tree.resolves_ofPieces_flags {us : List Tree}
    (h : (ofPieces (.flags changes :: us)).Resolves m f after) :
    ∃ b, (ofPieces us).Resolves (m.changeAll changes) b after ∧ (f = b ∨ f = .seq .empty b) := by
  cases us with
  | nil =>
      cases h
      exact ⟨.empty, .empty _, .inl rfl⟩
  | cons u us =>
      cases h with
      | seq hflags hus =>
          cases hflags
          exact ⟨_, hus, .inr rfl⟩

/-- The directive stands ahead of the only branch or of the first. -/
theorem Level.Leads.finish_cases (h : l.Leads [.flags changes] l') : ∃ us,
    l.finish = ofPieces (.flags changes :: us) ∧ l'.finish = ofPieces us ∨
      ∃ v, l.finish = .alt (ofPieces (.flags changes :: us)) v ∧ l'.finish = .alt (ofPieces us) v := by
  rw [Level.finish_eq, Level.finish_eq]
  cases h with
  | pieces ts =>
      have hbranch : (⟨ts ++ [.flags changes], []⟩ : Level).branch = ofPieces (.flags changes :: ts.reverse) := by
        simp [Level.branch]
      exact ⟨ts.reverse, .inl ⟨by rw [hbranch]; rfl, rfl⟩⟩
  | branches ts us bs =>
      have hsplit : ∀ us, (ofPieces ts.reverse :: (bs ++ [ofPieces us])).reverse =
          ofPieces us :: (bs.reverse ++ [ofPieces ts.reverse]) := by simp
      have hne : bs.reverse ++ [ofPieces ts.reverse] ≠ [] := by simp
      obtain ⟨v, vs, hvs⟩ := List.exists_cons_of_ne_nil hne
      simp only [Level.branch, hsplit, hvs]
      exact ⟨us, .inr ⟨_, rfl, rfl⟩⟩

theorem Level.Leads.pads (h : l.Leads [.flags changes] l') (hl : l.finish.Resolves m f after) :
    ∃ b, l'.finish.Resolves (m.changeAll changes) b after ∧ f.Pads b := by
  obtain ⟨us, ⟨htree, htree'⟩ | ⟨v, htree, htree'⟩⟩ := h.finish_cases
  · rw [htree] at hl
    rw [htree']
    obtain ⟨b, hb, hf⟩ := resolves_ofPieces_flags hl
    refine ⟨b, hb, ?_⟩
    rcases hf with rfl | rfl
    · exact .same f
    · exact .head b
  · rw [htree] at hl
    rw [htree']
    cases hl with
    | alt hfirst hrest =>
        obtain ⟨b, hb, hf⟩ := resolves_ofPieces_flags hfirst
        refine ⟨.alt b _, .alt hb hrest, ?_⟩
        rcases hf with rfl | rfl
        · exact .same _
        · exact .branch b _

theorem Level.Leads.eq_of_nil (h : l.Leads [] l') : l = l' := by
  cases h with
  | pieces ts => rw [List.append_nil]
  | branches ts us bs => rfl

/-- What stands behind the directive has a form by itself, under the modes that the directive makes. -/
theorem Level.Leads.pads_behind (h : l.Leads lead l') (hlead : IsLead lead)
    (hl : l.finish.resolve? m = some (f, after)) :
    ∃ b, l'.finish.resolve? (m.behind lead) = some (b, after) ∧ f.Pads b := by
  cases hlead with
  | nothing => exact ⟨f, h.eq_of_nil ▸ hl, .same f⟩
  | directive changes =>
      obtain ⟨b, hb, hpads⟩ := h.pads (resolves_of_resolve? hl)
      exact ⟨b, hb.resolve?, hpads⟩

def Level.anchored (lead : List Tree) (l : Level) : Tree :=
  ((⟨.assertion .textStart :: lead, []⟩ : Level).push (.group (.scoped []) l.finish)).finish

/-- The forms of a tree and of the same in its group have the form of the body in common. -/
theorem Level.Leads.anchors (h : l.Leads lead l') (hlead : IsLead lead)
    (hl : l.finish.resolve? m = some (f, after)) :
    ∃ b g after', f.Pads b ∧ g.Anchors b ∧ (l'.anchored lead).resolve? m = some (g, after') := by
  obtain ⟨b, hb, hpads⟩ := h.pads_behind hlead hl
  have hbody := resolves_of_resolve? hb
  cases hlead with
  | nothing =>
      have hanchored : (l'.anchored []).Resolves m (.seq (.look .textStart) b) m :=
        .seq (.assertion .textStart m) (.scoped hbody)
      exact ⟨b, _, m, hpads, .plain b, hanchored.resolve?⟩
  | directive changes =>
      have hanchored : (l'.anchored [.flags changes]).Resolves m (.seq .empty (.seq (.look .textStart) b))
          (m.changeAll changes) :=
        .seq (.flags changes m) (.seq (.assertion .textStart _) (.scoped hbody))
      exact ⟨b, _, m.changeAll changes, hpads, .head b, hanchored.resolve?⟩

theorem Tree.depth_le_seq (t u : Tree) : u.depth ≤ (seq t u).depth := by
  cases u <;> simp only [depth] <;> omega

theorem Tree.depth_alt_le {t t' : Tree} (h : t.depth ≤ t'.depth) (u : Tree) :
    (alt t u).depth ≤ (alt t' u).depth := by
  cases u <;> simp only [depth] <;> omega

theorem Tree.depth_ofPieces_flags (changes : List FlagChange) (us : List Tree) :
    (ofPieces us).depth ≤ (ofPieces (.flags changes :: us)).depth := by
  cases us with
  | nil => exact Nat.le_refl _
  | cons u us => exact depth_le_seq _ _

theorem Level.Leads.depth_le (h : l.Leads lead l') (hlead : IsLead lead) :
    l'.finish.depth ≤ l.finish.depth := by
  cases hlead with
  | nothing => rw [h.eq_of_nil]
  | directive changes =>
      obtain ⟨us, ⟨htree, htree'⟩ | ⟨v, htree, htree'⟩⟩ := h.finish_cases
      · rw [htree, htree']
        exact depth_ofPieces_flags changes us
      · rw [htree, htree']
        exact depth_alt_le (depth_ofPieces_flags changes us) v

theorem Level.depth_anchored (hlead : IsLead lead) (l : Level) :
    (l.anchored lead).depth = l.finish.depth + 2 := by
  have hinner : (Tree.seq (.assertion .textStart) (.group (.scoped []) l.finish)).depth = l.finish.depth + 2 := by
    simp only [depth]
    omega
  cases hlead with
  | nothing => exact hinner
  | directive changes =>
      have hwhole : (l.anchored [.flags changes]).depth =
          max (0 + 1) (Tree.seq (.assertion .textStart) (.group (.scoped []) l.finish)).depth := rfl
      rw [hwhole, hinner]
      omega

theorem Form.Pads.room_le {b : Form} (h : f.Pads b) : b.room ≤ f.room := by
  cases h with
  | same => exact Nat.le_refl _
  | head => exact Nat.le_add_left _ _
  | branch b g =>
      have htexts : (Form.alt (.seq .empty b) g).texts? = (Form.alt b g).texts? := by
        simp only [Form.texts?]
      rw [Form.room, Form.room, htexts]
      split
      · exact Nat.le_refl _
      · simp only [Form.room]
        omega

theorem Form.Anchors.room_le {b : Form} (h : f.Anchors b) : f.room ≤ b.room + 64 := by
  cases h with
  | plain => simp only [Form.room]; omega
  | head => simp only [Form.room]; omega

end Forms

end Patchwork.Regex
