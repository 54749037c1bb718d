import Patchwork.CompileError
import Patchwork.Draft
import Patchwork.Fragment.Range
import Patchwork.Registry

namespace Patchwork

/-- A computation that may fail, on a store that it changes in either case. -/
abbrev Compiling := ExceptT CompileError (StateM Store)

namespace Compiling

def spliceCall (r : Registry) (d : Draft) (id args : String) : Compiling Draft :=
  match r.function? id with
  | none => throw (.missingFunction id)
  | some f => do
    let args := argumentsOf args
    modify (·.record ⟨id, args, f matches .range⟩)
    match f.execute args with
    | .ok text => return d.append text
    | .error cause => throw (.fragment id cause)

def spliceReference (r : Registry) (compile : Expression → Compiling CompiledExpression)
    (d : Draft) (id : String) : Compiling Draft :=
  match r.resolve? id with
  | none => throw (.missingExpression id)
  | some variants => return d.splice id (← variants.mapM compile)

def spliceToken (r : Registry) (compile : Expression → Compiling CompiledExpression)
    (d : Draft) : Token → Compiling Draft
  | .call id args => spliceCall r d id args
  | .reference id => spliceReference r compile d id
  | t => return d.append t.render

def accept (pattern : String) : Except CompileError Regex :=
  match Regex.compile? pattern with
  | some regex => .ok regex
  | none => .error (.pattern pattern)

/-- Numbers the groups of a finished draft and makes its pattern ready for searching, from any place
on and at the start of a text alone. -/
def assemble (flags : ModeFlags) (source : String) (d : Draft) :
    Except CompileError CompiledExpression := do
  let numbered := renumber d.text
  let directive := flags.directive
  let regex ← accept (directive ++ numbered.body)
  let anchored ← accept (directive ++ "\\A(?:" ++ numbered.body ++ ")")
  if regex.groupCount = numbered.groupCount then
    return {
      source, directive, regex, anchored
      body := numbered.body
      groupCount := numbered.groupCount
      height := d.height
      names := d.names.absorb numbered.names 0
      anchors := d.anchors
      blocks := d.blocks }
  else throw (.groupCountMismatch numbered.groupCount regex.groupCount)

/-- The form that an expression has published, or else the one that `compile` gives, which it then
publishes. Below it, chains of `levels` references and no longer ones are still allowed for. -/
def reuse (limit levels : Nat) (compile : String → Compiling CompiledExpression)
    (e : Expression) : Compiling CompiledExpression := do
  match (← get).published? e with
  | some c => if c.height < levels then return c else throw (.tooDeeplyNested limit)
  | none =>
    let c ← compile e.source
    modify (·.publish e c)
    return c

/-- Compiles a source, with so many levels of nesting left, its own included. -/
def source (r : Registry) : Nat → String → Compiling CompiledExpression
  | 0, _ => throw (.tooDeeplyNested r.options.maxDepth)
  | levels + 1, text => do
    let nested := reuse r.options.maxDepth levels (source r levels)
    let d ← (Token.lex text).foldlM (spliceToken r nested) .empty
    assemble r.options.flags text d

end Compiling

def Expression.compile (e : Expression) (r : Registry) : Compiling CompiledExpression :=
  let levels := r.options.maxDepth + 1
  Compiling.reuse r.options.maxDepth levels (Compiling.source r levels) e

def Registry.compile (r : Registry) (source : String) : Compiling CompiledExpression := do
  let e ← modifyGet (·.create source)
  e.compile r

end Patchwork
