namespace Patchwork.Regex

/-- A character written in a pattern; `byteEscape` marks the form `\xHH`, which can name a byte. -/
structure Literal where
  char : Char
  byteEscape : Bool
  deriving DecidableEq

inductive LetterClass where
  | digit
  | space
  | word
  deriving DecidableEq

/-- Classes that are known by a name in brackets and colons; all are within ASCII. -/
inductive NamedClass where
  | alnum
  | alpha
  | ascii
  | blank
  | cntrl
  | digit
  | graph
  | lower
  | print
  | punct
  | space
  | upper
  | word
  | xdigit
  deriving DecidableEq

def NamedClass.ofName? : String → Option NamedClass
  | "alnum" => some alnum
  | "alpha" => some alpha
  | "ascii" => some ascii
  | "blank" => some blank
  | "cntrl" => some cntrl
  | "digit" => some digit
  | "graph" => some graph
  | "lower" => some lower
  | "print" => some print
  | "punct" => some punct
  | "space" => some space
  | "upper" => some upper
  | "word" => some word
  | "xdigit" => some xdigit
  | _ => none

inductive PropertyQuery where
  | named (name : String)
  | valued (name value : String)
  deriving DecidableEq

inductive ClassOp where
  | intersection
  | difference
  | symmetricDifference
  deriving DecidableEq

inductive ClassSet where
  | empty
  | literal (l : Literal)
  | range (first last : Literal)
  | letter (negated : Bool) (kind : LetterClass)
  | named (negated : Bool) (kind : NamedClass)
  | property (negated : Bool) (query : PropertyQuery)
  | bracketed (negated : Bool) (s : ClassSet)
  | union (s t : ClassSet)
  | combine (op : ClassOp) (s t : ClassSet)
  deriving DecidableEq

namespace ClassSet

def ofMembers : List ClassSet → ClassSet
  | [] => empty
  | [s] => s
  | s :: rest => union s (ofMembers rest)

/-- Nesting of brackets, unions and operators; a union of many members is one level. -/
def depth : ClassSet → Nat
  | bracketed _ s => s.depth + 1
  | combine _ s t => max s.depth t.depth + 1
  | union s t =>
    let rest := match t with
      | union .. => t.depth
      | _ => t.depth + 1
    max (s.depth + 1) rest
  | _ => 0

end ClassSet

end Patchwork.Regex
