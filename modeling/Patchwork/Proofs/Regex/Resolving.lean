import Patchwork.Regex.Modes

namespace Patchwork.Regex

open Unicode (CharSet)

namespace Tree

/-- Under the modes the tree has the form, and the other modes hold behind it. -/
inductive Resolves : Tree → Modes → Form → Modes → Prop where
  | empty (m : Modes) : Resolves .empty m .empty m
  | flags (changes : List FlagChange) (m : Modes) : Resolves (.flags changes) m .empty (m.changeAll changes)
  | literal {l : Literal} {m : Modes} {set : CharSet} (h : l.resolve? m = some set) :
      Resolves (.literal l) m (.chars set) m
  | dot {m : Modes} {set : CharSet} (h : m.dot? = some set) : Resolves .dot m (.chars set) m
  | assertion (a : Assertion) (m : Modes) : Resolves (.assertion a) m (.look (a.resolve m)) m
  | «class» {s : ClassSet} {m : Modes} {set : CharSet} (h : s.resolve? m = some set) :
      Resolves (.class s) m (.chars set) m
  | «repeat» {t : Tree} {m after : Modes} {f : Form} (min : Nat) (max : Option Nat) (greedy : Bool)
      (h : Resolves t m f after) :
      Resolves (.repeat min max greedy t) m (.repeated min max (greedy != after.swapGreed) f) after
  | capture {t : Tree} {m after : Modes} {f : Form} (index : Nat) (name : Option String)
      (h : Resolves t m f after) : Resolves (.group (.capture index name) t) m (.capture index f) m
  | «scoped» {t : Tree} {m after : Modes} {f : Form} {changes : List FlagChange}
      (h : Resolves t (m.changeAll changes) f after) : Resolves (.group (.scoped changes) t) m f m
  | seq {t u : Tree} {m between after : Modes} {f g : Form} (ht : Resolves t m f between)
      (hu : Resolves u between g after) : Resolves (.seq t u) m (.seq f g) after
  | alt {t u : Tree} {m between after : Modes} {f g : Form} (ht : Resolves t m f between)
      (hu : Resolves u between g after) : Resolves (.alt t u) m (.alt f g) after

variable {t : Tree} {m after : Modes} {f : Form}

theorem Resolves.resolve? (h : t.Resolves m f after) : t.resolve? m = some (f, after) := by
  induction h with
  | empty | flags | assertion => rfl
  | literal h | dot h | «class» h => exact Option.bind_eq_some_iff.2 ⟨_, h, rfl⟩
  | «repeat» _ _ _ _ ih | capture _ _ _ ih | «scoped» _ ih => exact Option.bind_eq_some_iff.2 ⟨_, ih, rfl⟩
  | seq _ _ iht ihu | alt _ _ iht ihu =>
      exact Option.bind_eq_some_iff.2 ⟨_, iht, Option.bind_eq_some_iff.2 ⟨_, ihu, rfl⟩⟩

theorem resolves_of_resolve? (h : t.resolve? m = some (f, after)) : t.Resolves m f after := by
  induction t generalizing m f after with
  | empty =>
      cases h
      exact .empty m
  | flags changes =>
      cases h
      exact .flags changes m
  | assertion a =>
      cases h
      exact .assertion a m
  | literal l =>
      obtain ⟨set, hset, heq⟩ := Option.bind_eq_some_iff.1 h
      cases heq
      exact .literal hset
  | dot =>
      obtain ⟨set, hset, heq⟩ := Option.bind_eq_some_iff.1 h
      cases heq
      exact .dot hset
  | «class» s =>
      obtain ⟨set, hset, heq⟩ := Option.bind_eq_some_iff.1 h
      cases heq
      exact .class hset
  | «repeat» min max greedy t ih =>
      obtain ⟨_, hf, heq⟩ := Option.bind_eq_some_iff.1 h
      cases heq
      exact .repeat min max greedy (ih hf)
  | group kind t ih =>
      cases kind with
      | capture index name =>
          obtain ⟨_, hf, heq⟩ := Option.bind_eq_some_iff.1 h
          cases heq
          exact .capture index name (ih hf)
      | «scoped» changes =>
          obtain ⟨_, hf, heq⟩ := Option.bind_eq_some_iff.1 h
          cases heq
          exact .scoped (ih hf)
  | seq t u iht ihu =>
      obtain ⟨_, hf, h⟩ := Option.bind_eq_some_iff.1 h
      obtain ⟨_, hg, heq⟩ := Option.bind_eq_some_iff.1 h
      cases heq
      exact .seq (iht hf) (ihu hg)
  | alt t u iht ihu =>
      obtain ⟨_, hf, h⟩ := Option.bind_eq_some_iff.1 h
      obtain ⟨_, hg, heq⟩ := Option.bind_eq_some_iff.1 h
      cases heq
      exact .alt (iht hf) (ihu hg)

end Tree

end Patchwork.Regex
