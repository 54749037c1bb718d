import Patchwork.Unicode.Age
import Patchwork.Unicode.Break
import Patchwork.Unicode.Script.Extension

/-!
Properties of characters as of Unicode 16.0, found by name. Names are compared without regard to
case, blanks, underscores and hyphens, and a leading "is" does not count.
-/

namespace Patchwork.Unicode.Property

open CharSet

def separatorFree (name : List Char) : List Char :=
  (name.filter fun c => !(c = ' ' || c = '_' || c = '-') && c.toNat < 128).map Char.toLower

/-- The form in which names are compared; "isc" stays what it is, the name of another property. -/
def normalize (name : String) : String :=
  match name.toList with
  | 'i' :: 's' :: rest | 'I' :: 's' :: rest | 'i' :: 'S' :: rest | 'I' :: 'S' :: rest =>
    match separatorFree rest with
    | ['c'] => "isc"
    | cs => String.ofList cs
  | cs => String.ofList (separatorFree cs)

def identifierStart : CharSet :=
  diff (tables (Category.letters ++ [letterNumbers, otherIdentifierStart])) (tables [[(0x2E2F, 0x2E2F)]])

def identifierContinue : CharSet :=
  union identifierStart (tables [nonspacingMarks, spacingMarks, decimalNumbers, connectorPunctuation,
    otherIdentifierContinue])

/-- Identifier characters that some normalisation takes out of the identifiers. -/
def unstableAtStart : CharSet :=
  tables [[(0x37A, 0x37A), (0xE33, 0xE33), (0xEB3, 0xEB3), (0x309B, 0x309C), (0xFC5E, 0xFC63),
    (0xFDFA, 0xFDFB), (0xFE70, 0xFE70), (0xFE72, 0xFE72), (0xFE74, 0xFE74), (0xFE76, 0xFE76),
    (0xFE78, 0xFE78), (0xFE7A, 0xFE7A), (0xFE7C, 0xFE7C), (0xFE7E, 0xFE7E), (0xFF9E, 0xFF9F)]]

def unstableInside : CharSet :=
  tables [[(0x37A, 0x37A), (0x309B, 0x309C), (0xFC5E, 0xFC63), (0xFDFA, 0xFDFB),
    (0xFE70, 0xFE70), (0xFE72, 0xFE72), (0xFE74, 0xFE74), (0xFE76, 0xFE76), (0xFE78, 0xFE78),
    (0xFE7A, 0xFE7A), (0xFE7C, 0xFE7C), (0xFE7E, 0xFE7E)]]

def changesLowered : CharSet :=
  diff (tables [uppercaseLetters, otherUppercase, titlecaseLetters]) (tables [unlowered])

def changesRaised : CharSet :=
  diff (tables [lowercaseLetters, otherLowercase, titlecaseLetters]) (tables [unraised])

def changesTitled : CharSet := union (diff changesRaised (tables [untitled])) (tables [titledAlone])

def changesFolded : CharSet :=
  union (diff changesLowered (tables [[(0x13A0, 0x13F5)]])) (tables [foldedAlone])

def caseIgnorable : CharSet :=
  tables [nonspacingMarks, enclosingMarks, formats, modifierLetters, modifierSymbols, Break.midLetters,
    Break.midEither, Break.singleQuote]

def graphemeBase : CharSet :=
  compl (tables ([controls, formats, surrogates, privateUse, unassigned, lineSeparators, paragraphSeparators] ++
    Break.graphemeExtend))

def binary : List (List String × CharSet) := [
  (["alpha", "alphabetic"], tables alphabetic),
  (["oalpha", "otheralphabetic"], tables [otherAlphabetic]),
  (["lower", "lowercase"], tables [lowercaseLetters, otherLowercase]),
  (["olower", "otherlowercase"], tables [otherLowercase]),
  (["upper", "uppercase"], tables [uppercaseLetters, otherUppercase]),
  (["oupper", "otheruppercase"], tables [otherUppercase]),
  (["cased"], tables (Category.casedLetters ++ [otherLowercase, otherUppercase])),
  (["ci", "caseignorable"], caseIgnorable),
  (["cwl", "changeswhenlowercased"], changesLowered),
  (["cwu", "changeswhenuppercased"], changesRaised),
  (["cwt", "changeswhentitlecased"], changesTitled),
  (["cwcf", "changeswhencasefolded"], changesFolded),
  (["cwcm", "changeswhencasemapped"], union changesLowered (union changesRaised changesTitled)),
  (["wspace", "whitespace", "space"], tables [whiteSpace]),
  (["math"], tables [mathSymbols, otherMath]),
  (["omath", "othermath"], tables [otherMath]),
  (["dash"], tables [dashes]),
  (["hyphen"], tables [hyphens]),
  (["hex", "hexdigit"], tables [hexDigits]),
  (["ahex", "asciihexdigit"], tables [asciiHexDigits]),
  (["ideo", "ideographic"], tables [ideographs]),
  (["uideo", "unifiedideograph"], tables [unifiedIdeographs]),
  (["radical"], tables [radicals]),
  (["idsu", "idsunaryoperator"], tables [unaryDescriptions]),
  (["idsb", "idsbinaryoperator"], tables [binaryDescriptions]),
  (["idst", "idstrinaryoperator"], tables [trinaryDescriptions]),
  (["emoji"], tables [emoji]),
  (["ecomp", "emojicomponent"], tables [emojiComponents]),
  (["emod", "emojimodifier"], tables [emojiModifiers]),
  (["ebase", "emojimodifierbase"], tables [emojiModifierBases]),
  (["epres", "emojipresentation"], tables [emojiPresentation]),
  (["extpict", "extendedpictographic"], tables [pictographs]),
  (["ri", "regionalindicator"], tables [regionalIndicators]),
  (["bidic", "bidicontrol"], tables [bidiControls]),
  (["bidim", "bidimirrored"], tables [mirrored]),
  (["joinc", "joincontrol"], tables [joinControls]),
  (["di", "defaultignorablecodepoint"], tables [defaultIgnorable]),
  (["odi", "otherdefaultignorablecodepoint"], tables [otherDefaultIgnorable]),
  (["dep", "deprecated"], tables [deprecated]),
  (["nchar", "noncharactercodepoint"], tables [noncharacters]),
  (["vs", "variationselector"], tables [variationSelectors]),
  (["dia", "diacritic"], tables [diacritics]),
  (["ext", "extender"], tables [extenders]),
  (["grbase", "graphemebase"], graphemeBase),
  (["grext", "graphemeextend"], tables Break.graphemeExtend),
  (["ogrext", "othergraphemeextend"], tables [otherGraphemeExtend]),
  (["grlink", "graphemelink"], tables [graphemeLinks]),
  (["mcm", "modifiercombiningmark"], tables [modifierCombiningMarks]),
  (["pcm", "prependedconcatenationmark"], tables [prependedMarks]),
  (["loe", "logicalorderexception"], tables [logicalOrderExceptions]),
  (["sd", "softdotted"], tables [softDotted]),
  (["qmark", "quotationmark"], tables [quotationMarks]),
  (["term", "terminalpunctuation"], tables [terminalPunctuation]),
  (["sterm", "sentenceterminal"], tables [sentenceTerminals]),
  (["patsyn", "patternsyntax"], tables [patternSyntax]),
  (["patws", "patternwhitespace"], tables [patternWhiteSpace]),
  (["ids", "idstart"], identifierStart),
  (["oids", "otheridstart"], tables [otherIdentifierStart]),
  (["idc", "idcontinue"], identifierContinue),
  (["oidc", "otheridcontinue"], tables [otherIdentifierContinue]),
  (["xids", "xidstart"], diff identifierStart unstableAtStart),
  (["xidc", "xidcontinue"], diff identifierContinue unstableInside),
  (["idcompatmathstart"], tables [mathIdentifierStart]),
  (["idcompatmathcontinue"], tables [mathIdentifierContinue])]

def category? (name : String) : Option CharSet :=
  match name with
  | "any" => some all
  | "ascii" => some (range (Char.ofNat 0) (Char.ofNat 127))
  | "assigned" => some (compl (tables [unassigned]))
  | _ => (Category.find? name).map tables

def script? (name : String) : Option CharSet :=
  (Script.find? name).map fun ranges => tables [ranges]

def named? (name : String) : Option CharSet :=
  let name := normalize name
  ((binary.find? fun entry => entry.1.contains name).map Prod.snd).or
    ((category? name).or (script? name))

def valued? (name value : String) : Option CharSet :=
  let value := normalize value
  match normalize name with
  | "gc" | "generalcategory" => category? value
  | "sc" | "script" => script? value
  | "scx" | "scriptextensions" => Script.extension? value
  | "age" => (Age.find? value).map tables
  | "gcb" | "graphemeclusterbreak" => Break.find? Break.clusters value
  | "wb" | "wordbreak" => Break.find? Break.words value
  | "sb" | "sentencebreak" => Break.find? Break.sentences value
  | _ => none

end Patchwork.Unicode.Property
