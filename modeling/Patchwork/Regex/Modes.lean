import Patchwork.Regex.Tree
import Patchwork.Regex.Form
import Patchwork.Unicode.Property

namespace Patchwork.Regex

open Unicode (CharSet)

structure Modes where
  caseInsensitive : Bool
  multiLine : Bool
  dotAll : Bool
  swapGreed : Bool
  unicode : Bool
  crlf : Bool
  deriving DecidableEq

namespace Modes

def initial : Modes := ⟨false, false, false, false, true, false⟩

def change (m : Modes) (c : FlagChange) : Modes :=
  match c.flag with
  | .caseInsensitive => { m with caseInsensitive := c.on }
  | .multiLine => { m with multiLine := c.on }
  | .dotAll => { m with dotAll := c.on }
  | .swapGreed => { m with swapGreed := c.on }
  | .unicode => { m with unicode := c.on }
  | .crlf => { m with crlf := c.on }
  | .verbose => m

def changeAll (m : Modes) (changes : List FlagChange) : Modes := changes.foldl change m

end Modes

namespace LetterClass

def unicodeSet : LetterClass → CharSet
  | digit => .tables [Unicode.decimalNumbers]
  | space => .tables [Unicode.whiteSpace]
  | word => .tables Unicode.wordTables

def asciiSet : LetterClass → CharSet
  | digit => .range '0' '9'
  | space => .ofList [' ', '\t', '\n', '\x0B', '\x0C', '\r']
  | word => .tables [[(0x30, 0x39), (0x41, 0x5A), (0x5F, 0x5F), (0x61, 0x7A)]]

end LetterClass

def NamedClass.set : NamedClass → CharSet
  | alnum => .tables [[(0x30, 0x39), (0x41, 0x5A), (0x61, 0x7A)]]
  | alpha => .tables [[(0x41, 0x5A), (0x61, 0x7A)]]
  | ascii => .tables [[(0x00, 0x7F)]]
  | blank => .tables [[(0x09, 0x09), (0x20, 0x20)]]
  | cntrl => .tables [[(0x00, 0x1F), (0x7F, 0x7F)]]
  | digit => .tables [[(0x30, 0x39)]]
  | graph => .tables [[(0x21, 0x7E)]]
  | lower => .tables [[(0x61, 0x7A)]]
  | print => .tables [[(0x20, 0x7E)]]
  | punct => .tables [[(0x21, 0x2F), (0x3A, 0x40), (0x5B, 0x60), (0x7B, 0x7E)]]
  | space => .tables [[(0x09, 0x0D), (0x20, 0x20)]]
  | upper => .tables [[(0x41, 0x5A)]]
  | word => .tables [[(0x30, 0x39), (0x41, 0x5A), (0x5F, 0x5F), (0x61, 0x7A)]]
  | xdigit => .tables [[(0x30, 0x39), (0x41, 0x46), (0x61, 0x66)]]

def PropertyQuery.set? : PropertyQuery → Option CharSet
  | named name => Unicode.Property.named? name
  | valued name value => Unicode.Property.valued? name value

def isAscii (c : Char) : Bool := c.toNat < 128

/-- The first character beyond ASCII; a class that does not know about Unicode treats all of them
alike. -/
def beyondAscii : Char := '\x80'

namespace Modes

def fold (m : Modes) (s : CharSet) : CharSet :=
  if m.caseInsensitive then (if m.unicode then .folded s else .asciiFolded s) else s

/-- Outside Unicode mode a class must keep to ASCII, since it would match single bytes. -/
def confine? (m : Modes) (s : CharSet) : Option CharSet :=
  if m.unicode || !s.contains beyondAscii then some s else none

/-- Folding comes before negation. -/
def finish? (m : Modes) (negated : Bool) (s : CharSet) : Option CharSet :=
  let s := m.fold s
  m.confine? (if negated then .compl s else s)

def admits (m : Modes) (l : Literal) : Bool := m.unicode || isAscii l.char

end Modes

def ClassOp.apply : ClassOp → CharSet → CharSet → CharSet
  | intersection => .inter
  | difference => .diff
  | symmetricDifference => .symmDiff

def ClassSet.resolve? (m : Modes) : ClassSet → Option CharSet
  | .empty => some .empty
  | .literal l => if m.admits l then some (.single l.char) else none
  | .range a b => if m.admits a && m.admits b then some (.range a.char b.char) else none
  | .letter negated kind =>
    let s := if m.unicode then kind.unicodeSet else kind.asciiSet
    m.confine? (if negated then .compl s else s)
  | .named negated kind => m.finish? negated kind.set
  | .property negated query => do
    let s ← query.set?
    if m.unicode then m.finish? negated s else none
  | .bracketed negated s => do m.finish? negated (← s.resolve? m)
  | .union s t => do return .union (← s.resolve? m) (← t.resolve? m)
  | .combine op s t => do return op.apply (m.fold (← s.resolve? m)) (m.fold (← t.resolve? m))

/-- The characters that a literal stands for; a byte beyond ASCII stands for none. -/
def Literal.resolve? (m : Modes) (l : Literal) : Option CharSet :=
  if m.unicode then
    some (if m.caseInsensitive then .ofList (Unicode.orbit l.char) else .single l.char)
  else if l.byteEscape && !isAscii l.char then none
  else
    some (if m.caseInsensitive then .ofList (CharSet.asciiOrbit l.char) else .single l.char)

/-- The characters that a dot stands for; outside Unicode mode it would match single bytes. -/
def Modes.dot? (m : Modes) : Option CharSet :=
  if !m.unicode then none
  else if m.dotAll then some .all
  else if m.crlf then some (.compl (.ofList ['\n', '\r']))
  else some (.compl (.single '\n'))

def Assertion.resolve (m : Modes) : Assertion → Look
  | lineStart => if m.multiLine then .lineStart m.crlf else .textStart
  | lineEnd => if m.multiLine then .lineEnd m.crlf else .textEnd
  | textStart => .textStart
  | textEnd => .textEnd
  | wordBoundary => .wordBoundary m.unicode
  | notWordBoundary => .notWordBoundary m.unicode
  | wordStart => .wordStart m.unicode
  | wordEnd => .wordEnd m.unicode
  | wordStartHalf => .wordStartHalf m.unicode
  | wordEndHalf => .wordEndHalf m.unicode

/-- The form of a tree under the modes at its start, with the modes at its end. -/
def Tree.resolve? (m : Modes) : Tree → Option (Form × Modes)
  | .empty => some (.empty, m)
  | .flags changes => some (.empty, m.changeAll changes)
  | .literal l => do return (.chars (← l.resolve? m), m)
  | .dot => do return (.chars (← m.dot?), m)
  | .assertion a => some (.look (a.resolve m), m)
  | .class s => do return (.chars (← s.resolve? m), m)
  | .repeat min max greedy t => do
    let (f, after) ← t.resolve? m
    return (.repeated min max (greedy != after.swapGreed) f, after)
  | .group (.capture index _) t => do
    let (f, _) ← t.resolve? m
    return (.capture index f, m)
  | .group (.scoped changes) t => do
    let (f, _) ← t.resolve? (m.changeAll changes)
    return (f, m)
  | .seq t u => do
    let (f, m) ← t.resolve? m
    let (g, m) ← u.resolve? m
    return (.seq f g, m)
  | .alt t u => do
    let (f, m) ← t.resolve? m
    let (g, m) ← u.resolve? m
    return (.alt f g, m)

end Patchwork.Regex
