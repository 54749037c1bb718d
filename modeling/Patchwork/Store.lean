import Patchwork.Expression

/-!
The store holds what is shared by all who hold an expression: the compiled form it has published, and
besides that the calls that compiling has made. An expression publishes one form, the first.
-/

namespace Patchwork

structure Call where
  id : String
  args : List String
  /-- Whether the function is the built-in one. -/
  builtIn : Bool
  deriving DecidableEq

structure Store where
  nextSerial : Nat
  published : List (Nat × CompiledExpression)
  calls : List Call

namespace Store

def empty : Store := ⟨0, [], []⟩

def create (s : Store) (source : String) : Expression × Store :=
  (⟨s.nextSerial, source⟩, { s with nextSerial := s.nextSerial + 1 })

def published? (s : Store) (e : Expression) : Option CompiledExpression :=
  (s.published.find? fun p => p.1 = e.serial).map Prod.snd

def isCompiled (s : Store) (e : Expression) : Bool := (s.published? e).isSome

/-- Publishes a form unless the expression has one. -/
def publish (s : Store) (e : Expression) (c : CompiledExpression) : Store :=
  if s.isCompiled e then s else { s with published := (e.serial, c) :: s.published }

def record (s : Store) (call : Call) : Store := { s with calls := s.calls ++ [call] }

theorem published?_publish_self (s : Store) (e : Expression) (c : CompiledExpression) :
    (s.publish e c).published? e = some ((s.published? e).getD c) := by
  unfold publish isCompiled
  cases h : s.published? e with
  | none => simp [published?]
  | some d => simp [h]

end Store

end Patchwork
