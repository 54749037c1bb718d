import Patchwork.Unicode.Category
import Patchwork.Unicode.Category.Residues

namespace Patchwork.Unicode

def inAny (tables : List RangeSet) (c : Char) : Bool := tables.any fun t => t.contains c.toNat

def alphabetic : List RangeSet := Category.letters ++ [letterNumbers, otherAlphabetic]

def wordTables : List RangeSet :=
  alphabetic ++ Category.marks ++ [decimalNumbers, connectorPunctuation, joinControls]

def isAlphabetic (c : Char) : Bool := inAny alphabetic c

def isAlphanumeric (c : Char) : Bool := inAny (alphabetic ++ Category.numbers) c

def isWhiteSpace (c : Char) : Bool := whiteSpace.contains c.toNat

def isWord (c : Char) : Bool := inAny wordTables c

def isGraphemeExtend (c : Char) : Bool :=
  inAny [nonspacingMarks, enclosingMarks, otherGraphemeExtend] c

/-- A character with a shape of its own; of the separators only the plain space has one. -/
def isPrintable (c : Char) : Bool :=
  c = ' ' || !inAny (Category.others ++ Category.separators) c

end Patchwork.Unicode
