namespace Patchwork

structure ModeFlags where
  caseInsensitive : Bool
  multiLine : Bool
  dotAll : Bool
  unicode : Bool
  deriving DecidableEq

namespace ModeFlags

def none : ModeFlags := ⟨false, false, false, false⟩

/-- The modes that patterns have unless others are asked for: `i`, `s` and `u`. -/
def standard : ModeFlags := ⟨true, false, true, true⟩

def enable (f : ModeFlags) : Char → ModeFlags
  | 'i' => { f with caseInsensitive := true }
  | 'm' => { f with multiLine := true }
  | 's' => { f with dotAll := true }
  | 'u' => { f with unicode := true }
  | _ => f

/-- The modes whose letters a string holds; other characters do not count. -/
def ofString (letters : String) : ModeFlags := letters.toList.foldl enable none

def merge (f g : ModeFlags) : ModeFlags where
  caseInsensitive := f.caseInsensitive || g.caseInsensitive
  multiLine := f.multiLine || g.multiLine
  dotAll := f.dotAll || g.dotAll
  unicode := f.unicode || g.unicode

def letterList (f : ModeFlags) : List Char :=
  ([(f.caseInsensitive, 'i'), (f.multiLine, 'm'), (f.dotAll, 's'), (f.unicode, 'u')].filter
    Prod.fst).map Prod.snd

def letters (f : ModeFlags) : String := String.ofList f.letterList

def directive (f : ModeFlags) : String :=
  if f.letterList.isEmpty then "" else "(?" ++ f.letters ++ ")"

end ModeFlags

structure Options where
  flags : ModeFlags
  /-- How long a chain of references may be. -/
  maxDepth : Nat
  deriving DecidableEq

def Options.defaultMaxDepth : Nat := 64

def Options.standard : Options := ⟨.standard, Options.defaultMaxDepth⟩

end Patchwork
