import Patchwork.Fragment
import Patchwork.Store

namespace Patchwork

structure Registry where
  /-- The variants of each identifier, in the order of their registration. -/
  expressions : List (String × List Expression)
  functions : List (String × Fragment)
  options : Options

def assign {α : Type} (key : String) (value : α) : List (String × α) → List (String × α)
  | [] => [(key, value)]
  | (k, v) :: rest => if k = key then (k, value) :: rest else (k, v) :: assign key value rest

namespace Registry

def withOptions (options : Options) : Registry := ⟨[], [], options⟩

def empty : Registry := withOptions .standard

def addFunction (r : Registry) (id : String) (f : Fragment) : Registry :=
  { r with functions := assign id f r.functions }

def standard : Registry := empty.addFunction "range" .range

def variants (r : Registry) (id : String) : List Expression :=
  ((r.expressions.find? fun e => e.1 = id).map Prod.snd).getD []

/-- Registers a variant of `id`; a source that is there already is not added again. Gives the
expression of that source. -/
def add (r : Registry) (id source : String) (s : Store) : Expression × Registry × Store :=
  match (r.variants id).find? (·.source = source) with
  | some e => (e, r, s)
  | none =>
    let (e, s) := s.create source
    (e, { r with expressions := assign id (r.variants id ++ [e]) r.expressions }, s)

def resolve? (r : Registry) (id : String) : Option (List Expression) :=
  if (r.variants id).isEmpty then none else some (r.variants id)

def function? (r : Registry) (id : String) : Option Fragment :=
  (r.functions.find? fun f => f.1 = id).map Prod.snd

def ids (r : Registry) : List String := r.expressions.map Prod.fst

def functionIds (r : Registry) : List String := r.functions.map Prod.fst

end Registry

end Patchwork
