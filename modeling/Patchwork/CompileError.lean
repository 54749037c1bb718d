import Patchwork.Fragment

namespace Patchwork

inductive CompileError where
  | missingExpression (id : String)
  | missingFunction (id : String)
  | tooDeeplyNested (limit : Nat)
  | fragment (id : String) (cause : FragmentError)
  /-- The engine refuses the text, for which it has words of its own. -/
  | pattern (refused : String)
  | groupCountMismatch (computed reported : Nat)
  deriving DecidableEq

def CompileError.message : CompileError → String
  | missingExpression id => "missing expression: " ++ id
  | missingFunction id => "missing function: " ++ id
  | tooDeeplyNested _ => "expression too deeply nested"
  | fragment id cause => "function '" ++ id ++ "' failed: " ++ cause.message
  | pattern _ => "invalid pattern:"
  | groupCountMismatch computed reported =>
    s!"group count mismatch: computed {computed}, engine reports {reported}"

end Patchwork
