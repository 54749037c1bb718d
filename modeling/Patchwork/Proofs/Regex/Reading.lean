import Patchwork.Proofs.Regex.Items
import Patchwork.Proofs.Regex.Resolving
import Patchwork.Regex.Modes
import Patchwork.Regex.Parse

namespace Patchwork.Regex

namespace Tree

def isDirective : Tree → Bool
  | .flags _ => true
  | _ => false

/-- No directive in the tree switches verbose mode on. -/
def isTerse : Tree → Bool
  | .flags changes => !FlagChange.verboseAfter changes false
  | .group (.scoped changes) t => !FlagChange.verboseAfter changes false && t.isTerse
  | .group (.capture _ _) t => t.isTerse
  | .repeat _ _ _ t => t.isTerse
  | .seq t u => t.isTerse && u.isTerse
  | .alt t u => t.isTerse && u.isTerse
  | _ => true

def Settled : Tree → Prop
  | .flags changes => FlagChange.verboseAfter changes false = false
  | .class s => s.Answered
  | .group (.scoped changes) t => FlagChange.verboseAfter changes false = false ∧ t.Settled
  | .group (.capture _ _) t => t.Settled
  | .repeat _ _ _ t => t.Settled
  | .seq t u => t.Settled ∧ u.Settled
  | .alt t u => t.Settled ∧ u.Settled
  | _ => True

theorem answered_of_resolve? {m : Modes} {s : ClassSet} {set : Unicode.CharSet}
    (h : s.resolve? m = some set) : s.Answered := by
  cases s with
  | property negated query =>
      obtain ⟨set', hset', -⟩ := Option.bind_eq_some_iff.1 h
      simp [ClassSet.Answered, hset']
  | _ => trivial

theorem Resolves.settled {t : Tree} {m after : Modes} {f : Form} (h : t.Resolves m f after)
    (hterse : t.isTerse) : t.Settled := by
  induction h with
  | flags changes => simpa [isTerse, Settled] using hterse
  | «class» hset => exact answered_of_resolve? hset
  | «repeat» _ _ _ _ ih | capture _ _ _ ih => exact ih hterse
  | «scoped» _ ih =>
      simp only [isTerse, Bool.and_eq_true, Bool.not_eq_true'] at hterse
      exact ⟨hterse.1, ih hterse.2⟩
  | seq _ _ iht ihu | alt _ _ iht ihu =>
      simp only [isTerse, Bool.and_eq_true] at hterse
      exact ⟨iht hterse.1, ihu hterse.2⟩
  | empty | literal | dot | assertion => trivial

theorem settled_ofPieces {ts : List Tree} : (ofPieces ts).Settled ↔ ∀ t ∈ ts, t.Settled := by
  induction ts with
  | nil => simp [ofPieces, Settled]
  | cons t ts ih =>
      cases ts with
      | nil => simp [ofPieces]
      | cons u us =>
          rw [List.forall_mem_cons, ← ih]
          rfl

theorem settled_ofBranches {t : Tree} {ts : List Tree} :
    (ofBranches t ts).Settled ↔ ∀ u ∈ t :: ts, u.Settled := by
  induction ts generalizing t with
  | nil => simp [ofBranches]
  | cons u us ih =>
      rw [List.forall_mem_cons, ← ih]
      rfl

end Tree

def GroupKind.Settled : GroupKind → Prop
  | .scoped changes => FlagChange.verboseAfter changes false = false
  | .capture _ _ => True

theorem Tree.settled_group {kind : GroupKind} {t : Tree} :
    (Tree.group kind t).Settled ↔ kind.Settled ∧ t.Settled := by
  cases kind <;> simp [Settled, GroupKind.Settled]

def Item.Settled : Item → Prop
  | .piece t => t.Settled
  | .directive changes => FlagChange.verboseAfter changes false = false
  | .opening (.scoped changes) => FlagChange.verboseAfter changes false = false
  | _ => True

theorem Item.Settled.answered {item : Item} (h : item.Settled) : item.Answered := by
  cases item with
  | piece t => cases t <;> first | exact h | trivial
  | _ => trivial

namespace Level

structure Settled (l : Level) : Prop where
  pieces : ∀ t ∈ l.pieces, t.Settled
  branches : ∀ t ∈ l.branches, t.Settled

theorem settled_branch {l : Level} : l.branch.Settled ↔ ∀ t ∈ l.pieces, t.Settled := by
  simp [branch, Tree.settled_ofPieces]

theorem settled_finish {l : Level} (h : l.finish.Settled) : l.Settled := by
  unfold finish at h
  split at h
  · next heq => simp at heq
  · next t rest heq =>
      rw [Tree.settled_ofBranches, ← heq] at h
      simp only [List.mem_reverse, List.forall_mem_cons, settled_branch] at h
      exact ⟨h.1, h.2⟩

end Level

namespace Builder

structure Settled (b : Builder) : Prop where
  level : b.level.Settled
  outer : ∀ g ∈ b.outer, g.before.Settled ∧ g.kind.Settled

/-- Verbose mode is off, and will be off behind every open group. -/
structure Steady (b : Builder) : Prop where
  verbose : b.verbose = false
  outer : ∀ g ∈ b.outer, g.verbose = false

inductive Pushes : Builder → Item → Builder → Prop where
  | piece (b : Builder) (t : Tree) : Pushes b (.piece t) { b with level := b.level.push t }
  | operator {b : Builder} {t : Tree} {rest : List Tree} (min : Nat) (max : Option Nat) (greedy : Bool)
      (hlast : b.level.pieces = t :: rest) :
      Pushes b (.operator min max greedy)
        { b with level := { b.level with pieces := .repeat min max greedy t :: rest } }
  | directive (b : Builder) (changes : List FlagChange) :
      Pushes b (.directive changes) { b with
        level := b.level.push (.flags changes)
        verbose := FlagChange.verboseAfter changes b.verbose }
  | capture (b : Builder) (name : Option String) (names : List String) :
      Pushes b (.opening (.capture name)) { b with
        level := .empty
        outer := ⟨b.level, .capture (b.captures + 1) name, b.verbose⟩ :: b.outer
        captures := b.captures + 1
        names }
  | modes (b : Builder) (changes : List FlagChange) :
      Pushes b (.opening (.scoped changes)) { b with
        level := .empty
        outer := ⟨b.level, .scoped changes, b.verbose⟩ :: b.outer
        verbose := FlagChange.verboseAfter changes b.verbose }
  | bar (b : Builder) : Pushes b .bar { b with level := b.level.bar }
  | closing {b : Builder} {g : OpenGroup} {outer : List OpenGroup} (houter : b.outer = g :: outer) :
      Pushes b .closing { b with
        level := g.before.push (.group g.kind b.level.finish)
        outer
        verbose := g.verbose }

variable {b b' : Builder} {item : Item}

theorem repeatLast?_of_pieces {t : Tree} {ts : List Tree} (hpieces : b.level.pieces = t :: ts)
    (ht : t.isDirective = false) (min : Nat) (max : Option Nat) (greedy : Bool) :
    b.repeatLast? min max greedy =
      some { b with level := { b.level with pieces := .repeat min max greedy t :: ts } } := by
  unfold repeatLast?
  rw [hpieces]
  cases t <;> first | rfl | cases ht

theorem exists_of_repeatLast? {min : Nat} {max : Option Nat} {greedy : Bool}
    (h : b.repeatLast? min max greedy = some b') :
    ∃ t ts, b.level.pieces = t :: ts ∧ t.isDirective = false ∧
      b' = { b with level := { b.level with pieces := .repeat min max greedy t :: ts } } := by
  unfold repeatLast? at h
  split at h
  · cases h
  · cases h
  · next t ts hnot hpieces =>
      cases h
      refine ⟨t, ts, hpieces, ?_, rfl⟩
      cases t <;> first | rfl | exact (hnot _ rfl).elim

theorem openGroup?_capture_eq_some {name : Option String} :
    b.openGroup? (.capture name) = some b' ↔ (∀ n, name = some n → n ∉ b.names) ∧ b' = { b with
      level := .empty
      outer := ⟨b.level, .capture (b.captures + 1) name, b.verbose⟩ :: b.outer
      captures := b.captures + 1
      names := name.toList ++ b.names } := by
  cases name with
  | none => simp [openGroup?, eq_comm]
  | some n => simp [openGroup?, eq_comm]

theorem closeGroup?_eq_some : b.closeGroup? = some b' ↔ ∃ g outer, b.outer = g :: outer ∧ b' = { b with
    level := g.before.push (.group g.kind b.level.finish)
    outer
    verbose := g.verbose } := by
  unfold closeGroup?
  constructor
  · intro h
    split at h
    · cases h
    · next g outer houter =>
        cases h
        exact ⟨g, outer, houter, rfl⟩
  · rintro ⟨g, outer, houter, rfl⟩
    rw [houter]

theorem pushes_of_push? (h : b.push? item = some b') : b.Pushes item b' := by
  cases item with
  | piece t =>
      cases h
      exact .piece b t
  | operator min max greedy =>
      obtain ⟨t, ts, hpieces, -, rfl⟩ := exists_of_repeatLast? h
      exact .operator min max greedy hpieces
  | directive changes =>
      cases h
      exact .directive b changes
  | opening o =>
      cases o with
      | capture name =>
          obtain ⟨-, rfl⟩ := openGroup?_capture_eq_some.1 h
          exact .capture b name _
      | «scoped» changes =>
          cases h
          exact .modes b changes
  | bar =>
      cases h
      exact .bar b
  | closing =>
      obtain ⟨g, outer, houter, rfl⟩ := closeGroup?_eq_some.1 h
      exact .closing houter

theorem Pushes.settled (h : b.Pushes item b') (hsettled : b'.Settled) : b.Settled ∧ item.Settled := by
  obtain ⟨⟨hpieces, hbranches⟩, houter⟩ := hsettled
  cases h with
  | piece t | directive changes =>
      obtain ⟨ht, hpieces⟩ := List.forall_mem_cons.1 hpieces
      exact ⟨⟨⟨hpieces, hbranches⟩, houter⟩, ht⟩
  | operator min max greedy hlast =>
      refine ⟨⟨⟨?_, hbranches⟩, houter⟩, trivial⟩
      rw [hlast]
      obtain ⟨ht, hpieces⟩ := List.forall_mem_cons.1 hpieces
      exact List.forall_mem_cons.2 ⟨ht, hpieces⟩
  | capture name names =>
      obtain ⟨hg, houter⟩ := List.forall_mem_cons.1 houter
      exact ⟨⟨hg.1, houter⟩, trivial⟩
  | modes changes =>
      obtain ⟨hg, houter⟩ := List.forall_mem_cons.1 houter
      exact ⟨⟨hg.1, houter⟩, hg.2⟩
  | bar =>
      obtain ⟨hbranch, hbranches⟩ := List.forall_mem_cons.1 hbranches
      exact ⟨⟨⟨Level.settled_branch.1 hbranch, hbranches⟩, houter⟩, trivial⟩
  | closing heq =>
      obtain ⟨hgroup, hpieces⟩ := List.forall_mem_cons.1 hpieces
      rw [Tree.settled_group] at hgroup
      refine ⟨⟨Level.settled_finish hgroup.2, ?_⟩, trivial⟩
      rw [heq]
      exact List.forall_mem_cons.2 ⟨⟨⟨hpieces, hbranches⟩, hgroup.1⟩, houter⟩

theorem Pushes.steady (h : b.Pushes item b') (hitem : item.Settled) (hsteady : b.Steady) : b'.Steady := by
  obtain ⟨hverbose, houter⟩ := hsteady
  cases h with
  | piece | operator | bar => exact ⟨hverbose, houter⟩
  | directive changes => exact ⟨by rw [hverbose]; exact hitem, houter⟩
  | capture name names => exact ⟨hverbose, List.forall_mem_cons.2 ⟨hverbose, houter⟩⟩
  | modes changes =>
      exact ⟨by rw [hverbose]; exact hitem, List.forall_mem_cons.2 ⟨hverbose, houter⟩⟩
  | closing heq =>
      rw [heq] at houter
      obtain ⟨hg, houter⟩ := List.forall_mem_cons.1 houter
      exact ⟨hg, houter⟩

inductive Reads : Builder → List Char → Builder → List Char → Prop where
  | done (b : Builder) (cs : List Char) : Reads b cs b cs
  | item {b₁ b₂ b₃ : Builder} {cs rest last : List Char} {item : Item}
      (hread : Item.read false cs = some (item, rest)) (hitem : item.Settled) (hpush : b₁.Pushes item b₂)
      (h : Reads b₂ rest b₃ last) : Reads b₁ cs b₃ last

theorem run_cases {fuel : Nat} {cs : List Char} (h : run (fuel + 1) b cs = some b') :
    afterBlanks b.verbose cs = [] ∧ b' = b ∨ ∃ item rest next,
      Item.read b.verbose (afterBlanks b.verbose cs) = some (item, rest) ∧ b.push? item = some next ∧
        run fuel next rest = some b' := by
  simp only [run] at h
  split at h
  · next hnil => exact .inl ⟨hnil, (Option.some.inj h).symm⟩
  · obtain ⟨⟨item, rest⟩, hread, h⟩ := Option.bind_eq_some_iff.1 h
    obtain ⟨next, hpush, h⟩ := Option.bind_eq_some_iff.1 h
    exact .inr ⟨item, rest, next, hread, hpush, h⟩

theorem settled_of_run {fuel : Nat} {cs : List Char} (h : run fuel b cs = some b')
    (hsettled : b'.Settled) : b.Settled := by
  induction fuel generalizing b cs with
  | zero => cases h
  | succ fuel ih =>
      rcases run_cases h with ⟨-, rfl⟩ | ⟨item, rest, next, -, hpush, h⟩
      · exact hsettled
      · exact ((pushes_of_push? hpush).settled (ih h)).1

/-- A run that ends settled and was steady at its start has been in one mode all the time. -/
theorem reads_of_run {fuel : Nat} {cs : List Char} (hsteady : b.Steady)
    (h : run fuel b cs = some b') (hsettled : b'.Settled) : Reads b cs b' [] := by
  induction fuel generalizing b cs with
  | zero => cases h
  | succ fuel ih =>
      have hcases := run_cases h
      rw [hsteady.verbose, afterBlanks_false] at hcases
      rcases hcases with ⟨rfl, rfl⟩ | ⟨item, rest, next, hread, hpush, h⟩
      · exact .done _ _
      · have hpush := pushes_of_push? hpush
        obtain ⟨-, hitem⟩ := hpush.settled (settled_of_run h hsettled)
        exact .item hread hitem hpush (ih (hpush.steady hitem hsteady) h)

theorem Reads.trans {b₁ b₂ b₃ : Builder} {cs ds es : List Char} (h : Reads b₁ cs b₂ ds)
    (h' : Reads b₂ ds b₃ es) : Reads b₁ cs b₃ es := by
  induction h with
  | done => exact h'
  | item hread hitem hpush _ ih => exact .item hread hitem hpush (ih h')

theorem Reads.peel {cs rest : List Char} (h : Reads b cs b' [])
    (hread : Item.read false cs = some (item, rest)) :
    ∃ b₂, b.Pushes item b₂ ∧ item.Settled ∧ Reads b₂ rest b' [] := by
  cases h with
  | done => cases hread
  | item hread' hitem hpush h =>
      rw [hread] at hread'
      obtain ⟨rfl, rfl⟩ := Prod.mk.inj (Option.some.inj hread')
      exact ⟨_, hpush, hitem, h⟩

theorem Reads.isSome_read {cs : List Char} (h : Reads b cs b' []) (hne : cs ≠ []) :
    (Item.read false cs).isSome := by
  cases h with
  | done => exact absurd rfl hne
  | item hread => rw [hread]; rfl

end Builder

end Patchwork.Regex
