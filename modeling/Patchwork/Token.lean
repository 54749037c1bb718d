namespace Patchwork

/-- The two spellings of an opener that gives its group a name, `(?<n>` and `(?P<n>`. -/
inductive NameStyle where
  | plain
  | withP
  deriving DecidableEq

def NameStyle.opening : NameStyle → String
  | plain => "(?<"
  | withP => "(?P<"

inductive Token where
  /-- Pattern text without structure of its own. -/
  | text (s : String)
  /-- A backslash with the character it escapes, if there is one. -/
  | escape (s : String)
  /-- A character class with its brackets; one that is not closed runs to the end. -/
  | charClass (s : String)
  | groupOpen
  | namedOpen (style : NameStyle) (name : String)
  /-- The `(?` of a group that captures nothing under a name. -/
  | specialOpen
  | reference (id : String)
  | call (id args : String)
  deriving DecidableEq

namespace Token

def render : Token → String
  | text s | escape s | charClass s => s
  | groupOpen => "("
  | namedOpen style name => style.opening ++ name ++ ">"
  | specialOpen => "(?"
  | reference id => "$\x7b" ++ id ++ "\x7d"
  | call id args => "$\x7b" ++ id ++ "(" ++ args ++ ")\x7d"

def isCapturing : Token → Bool
  | groupOpen | namedOpen .. => true
  | _ => false

def display : Token → String
  | text s => "text `" ++ s ++ "`"
  | escape s => "escape `" ++ s ++ "`"
  | charClass s => "class `" ++ s ++ "`"
  | groupOpen => "`(`"
  | namedOpen _ name => "named group `" ++ name ++ "`"
  | specialOpen => "`(?`"
  | reference id => "reference `" ++ id ++ "`"
  | call id args => "call `" ++ id ++ "(" ++ args ++ ")`"

end Token

end Patchwork
