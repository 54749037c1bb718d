import Patchwork.Unicode.Category.Letters
import Patchwork.Unicode.Category.Marks
import Patchwork.Unicode.Category.Numbers
import Patchwork.Unicode.Category.Others
import Patchwork.Unicode.Category.Punctuation
import Patchwork.Unicode.Category.Symbols

namespace Patchwork.Unicode.Category

def letters : List RangeSet :=
  [uppercaseLetters, lowercaseLetters, titlecaseLetters, modifierLetters, otherLetters]

def casedLetters : List RangeSet := [uppercaseLetters, lowercaseLetters, titlecaseLetters]

def marks : List RangeSet := [nonspacingMarks, spacingMarks, enclosingMarks]

def numbers : List RangeSet := [decimalNumbers, letterNumbers, otherNumbers]

def punctuation : List RangeSet :=
  [connectorPunctuation, dashPunctuation, openPunctuation, closePunctuation,
    initialPunctuation, finalPunctuation, otherPunctuation]

def symbols : List RangeSet := [mathSymbols, currencySymbols, modifierSymbols, otherSymbols]

def separators : List RangeSet := [spaceSeparators, lineSeparators, paragraphSeparators]

def others : List RangeSet := [controls, formats, surrogates, privateUse, unassigned]

/-- Each category with its names, in lower case and without separators. -/
def table : List (List String × List RangeSet) := [
  (["l", "letter"], letters),
  (["lc", "casedletter"], casedLetters),
  (["lu", "uppercaseletter"], [uppercaseLetters]),
  (["ll", "lowercaseletter"], [lowercaseLetters]),
  (["lt", "titlecaseletter"], [titlecaseLetters]),
  (["lm", "modifierletter"], [modifierLetters]),
  (["lo", "otherletter"], [otherLetters]),
  (["m", "mark", "combiningmark"], marks),
  (["mn", "nonspacingmark"], [nonspacingMarks]),
  (["mc", "spacingmark"], [spacingMarks]),
  (["me", "enclosingmark"], [enclosingMarks]),
  (["n", "number"], numbers),
  (["nd", "decimalnumber", "digit"], [decimalNumbers]),
  (["nl", "letternumber"], [letterNumbers]),
  (["no", "othernumber"], [otherNumbers]),
  (["p", "punctuation", "punct"], punctuation),
  (["pc", "connectorpunctuation"], [connectorPunctuation]),
  (["pd", "dashpunctuation"], [dashPunctuation]),
  (["ps", "openpunctuation"], [openPunctuation]),
  (["pe", "closepunctuation"], [closePunctuation]),
  (["pi", "initialpunctuation"], [initialPunctuation]),
  (["pf", "finalpunctuation"], [finalPunctuation]),
  (["po", "otherpunctuation"], [otherPunctuation]),
  (["s", "symbol"], symbols),
  (["sm", "mathsymbol"], [mathSymbols]),
  (["sc", "currencysymbol"], [currencySymbols]),
  (["sk", "modifiersymbol"], [modifierSymbols]),
  (["so", "othersymbol"], [otherSymbols]),
  (["z", "separator"], separators),
  (["zs", "spaceseparator"], [spaceSeparators]),
  (["zl", "lineseparator"], [lineSeparators]),
  (["zp", "paragraphseparator"], [paragraphSeparators]),
  (["c", "other"], others),
  (["cc", "control", "cntrl"], [controls]),
  (["cf", "format"], [formats]),
  (["co", "privateuse"], [privateUse]),
  (["cn", "unassigned"], [unassigned])]

def find? (name : String) : Option (List RangeSet) :=
  (table.find? fun entry => entry.1.contains name).map Prod.snd

end Patchwork.Unicode.Category
