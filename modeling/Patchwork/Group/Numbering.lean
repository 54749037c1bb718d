import Patchwork.Group.Names
import Patchwork.Token.Lexer

namespace Patchwork

/-- A pattern in which no opener gives a name, with the names its openers had. -/
structure Numbered where
  body : String
  names : GroupNames
  /-- The capture groups and the whole match. -/
  groupCount : Nat

namespace Numbered

def empty : Numbered := ⟨"", .empty, 1⟩

/-- Adds one token at the end; an opener takes the next number. -/
def push (r : Numbered) : Token → Numbered
  | .groupOpen => { r with body := r.body ++ "(", groupCount := r.groupCount + 1 }
  | .namedOpen _ name =>
    { body := r.body ++ "("
      names := r.names.insert r.groupCount name
      groupCount := r.groupCount + 1 }
  | t => { r with body := r.body ++ t.render }

end Numbered

def renumber (text : String) : Numbered := (Token.lex text).foldl Numbered.push .empty

def countCapturing (text : String) : Nat := (Token.lex text).countP Token.isCapturing

end Patchwork
