import Patchwork.Unicode.Character

namespace Patchwork.GroupName

def isStart (c : Char) : Bool := c = '_' || Unicode.isAlphabetic c

def isPart (c : Char) : Bool :=
  c = '_' || c = '.' || c = '[' || c = ']' || Unicode.isAlphanumeric c

def isName : List Char → Bool
  | [] => false
  | c :: cs => isStart c && cs.all isPart

end Patchwork.GroupName
