import Patchwork.Unicode.CharSet
import Patchwork.Unicode.Script
import Patchwork.Unicode.Trait

set_option maxRecDepth 4000

namespace Patchwork.Unicode.Break

open CharSet

def lineFeed : RangeSet := [(0xA, 0xA)]

def carriageReturn : RangeSet := [(0xD, 0xD)]

def joiner : RangeSet := [(0x200D, 0x200D)]

def tags : RangeSet := [(0xE0020, 0xE007F)]

def graphemeExtend : List RangeSet := [nonspacingMarks, enclosingMarks, otherGraphemeExtend]

def find? (table : List (List String × CharSet)) (name : String) : Option CharSet :=
  (table.find? fun entry => entry.1.contains name).map Prod.snd

def clusterControl : CharSet :=
  diff
    (union (tables [lineSeparators, paragraphSeparators, controls, formats])
      (inter (tables [unassigned]) (tables [defaultIgnorable])))
    (tables [lineFeed, carriageReturn, joinControls, prependedMarks, tags])

def clusterExtend : CharSet := tables (emojiModifiers :: graphemeExtend)

def clusterPrepend : CharSet :=
  tables [prependedMarks,
    [(0xD4E, 0xD4E), (0x111C2, 0x111C3), (0x113D1, 0x113D1), (0x1193F, 0x1193F), (0x11941, 0x11941),
      (0x11A3A, 0x11A3A), (0x11A84, 0x11A89), (0x11D46, 0x11D46), (0x11F02, 0x11F02)]]

def clusterSpacingMark : CharSet :=
  diff (tables [spacingMarks, [(0xE33, 0xE33), (0xEB3, 0xEB3)]])
    (union clusterExtend (tables [
      [(0x102B, 0x102C), (0x1038, 0x1038), (0x1062, 0x1064), (0x1067, 0x106D), (0x1083, 0x1083),
        (0x1087, 0x108C), (0x108F, 0x108F), (0x109A, 0x109C), (0x1A61, 0x1A61), (0x1A63, 0x1A64),
        (0xAA7B, 0xAA7B), (0xAA7D, 0xAA7D), (0x11720, 0x11721)]]))

def syllables : RangeSet := [(0xAC00, 0xD7A3)]

/-- The syllables without a final consonant; each is followed by those that have one. -/
def openSyllables : RangeSet := (List.range 399).map fun k => (0xAC00 + 28 * k, 0xAC00 + 28 * k)

def clusters : List (List String × CharSet) := [
  (["cn", "control"], clusterControl),
  (["cr"], tables [carriageReturn]),
  (["ex", "extend"], clusterExtend),
  (["l"], tables [[(0x1100, 0x115F), (0xA960, 0xA97C)]]),
  (["lf"], tables [lineFeed]),
  (["lv"], tables [openSyllables]),
  (["lvt"], diff (tables [syllables]) (tables [openSyllables])),
  (["pp", "prepend"], clusterPrepend),
  (["ri", "regionalindicator"], tables [regionalIndicators]),
  (["sm", "spacingmark"], clusterSpacingMark),
  (["t"], tables [[(0x11A8, 0x11FF), (0xD7CB, 0xD7FB)]]),
  (["v"], tables [[(0x1160, 0x11A7), (0xD7B0, 0xD7C6), (0x16D63, 0x16D63), (0x16D67, 0x16D6A)]]),
  (["zwj"], tables [joiner])]

/-- Signs that stand before the digits of a number. -/
def numberSigns : RangeSet :=
  [(0x600, 0x605), (0x6DD, 0x6DD), (0x890, 0x891), (0x8E2, 0x8E2), (0x110BD, 0x110BD),
    (0x110CD, 0x110CD)]

def numeric : List RangeSet := [decimalNumbers, numberSigns, [(0x66B, 0x66B), (0x19DA, 0x19DA)]]

/-- Scripts that part their words by other means than blanks. -/
def unspaced : List RangeSet :=
  [Script.hiragana, Script.thai, Script.lao, Script.khmer, Script.myanmar, Script.taiLe,
    Script.newTaiLue, Script.taiTham, Script.taiViet, Script.ahom]

def wordExtend : CharSet :=
  diff (tables (spacingMarks :: emojiModifiers :: graphemeExtend)) (tables [joiner])

def wordKatakana : CharSet :=
  tables [Script.katakana,
    [(0x3031, 0x3035), (0x309B, 0x309C), (0x30A0, 0x30A0), (0x30FC, 0x30FC), (0xFF70, 0xFF70)]]

def wordHebrew : CharSet := inter (tables [Script.hebrew]) (tables [otherLetters])

def wordLetter : CharSet :=
  diff
    (tables (alphabetic ++ [
      [(0x2C2, 0x2C5), (0x2D2, 0x2D7), (0x2DE, 0x2DF), (0x2E5, 0x2EB), (0x2ED, 0x2ED),
        (0x2EF, 0x2FF), (0x55A, 0x55C), (0x55E, 0x55E), (0x58A, 0x58A), (0x5F3, 0x5F3),
        (0x70F, 0x70F), (0xA708, 0xA716), (0xA720, 0xA721), (0xA789, 0xA78A), (0xAB5B, 0xAB5B)]]))
    (union (tables (ideographs :: unspaced)) (union wordKatakana (union wordHebrew wordExtend)))

def midLetters : RangeSet := [
  (0x3A, 0x3A), (0xB7, 0xB7), (0x387, 0x387), (0x55F, 0x55F), (0x5F4, 0x5F4), (0x2027, 0x2027),
  (0xFE13, 0xFE13), (0xFE55, 0xFE55), (0xFF1A, 0xFF1A)]

def midNumbers : RangeSet := [
  (0x2C, 0x2C), (0x3B, 0x3B), (0x37E, 0x37E), (0x589, 0x589), (0x60C, 0x60D), (0x66C, 0x66C),
  (0x7F8, 0x7F8), (0x2044, 0x2044), (0xFE50, 0xFE50), (0xFE54, 0xFE54), (0xFF0C, 0xFF0C),
  (0xFF1B, 0xFF1B)]

def midEither : RangeSet := [
  (0x2E, 0x2E), (0x2018, 0x2019), (0x2024, 0x2024), (0xFE52, 0xFE52), (0xFF07, 0xFF07),
  (0xFF0E, 0xFF0E)]

def singleQuote : RangeSet := [(0x27, 0x27)]

def words : List (List String × CharSet) := [
  (["le", "aletter"], wordLetter),
  (["cr"], tables [carriageReturn]),
  (["dq", "doublequote"], tables [[(0x22, 0x22)]]),
  (["extend"], wordExtend),
  (["ex", "extendnumlet"], tables [connectorPunctuation, [(0x202F, 0x202F)]]),
  (["fo", "format"],
    diff (tables [formats]) (tables [[(0x200B, 0x200B)], joinControls, prependedMarks, tags])),
  (["hl", "hebrewletter"], wordHebrew),
  (["ka", "katakana"], wordKatakana),
  (["lf"], tables [lineFeed]),
  (["ml", "midletter"], tables [midLetters]),
  (["mn", "midnum"], tables [midNumbers]),
  (["mb", "midnumlet"], tables [midEither]),
  (["nl", "newline"], tables [[(0xB, 0xC), (0x85, 0x85), (0x2028, 0x2029)]]),
  (["nu", "numeric"], tables numeric),
  (["ri", "regionalindicator"], tables [regionalIndicators]),
  (["sq", "singlequote"], tables [singleQuote]),
  (["wsegspace"],
    diff (tables [spaceSeparators]) (tables [[(0xA0, 0xA0), (0x2007, 0x2007), (0x202F, 0x202F)]])),
  (["zwj"], tables [joiner])]

def sentenceExtend : CharSet := tables (joiner :: spacingMarks :: graphemeExtend)

def sentenceLower : CharSet :=
  diff (tables [lowercaseLetters, otherLowercase])
    (tables ([(0x10D0, 0x10FA), (0x10FD, 0x10FF)] :: graphemeExtend))

def sentenceUpper : CharSet :=
  diff (tables [uppercaseLetters, titlecaseLetters, otherUppercase])
    (tables [[(0x1C90, 0x1CBA), (0x1CBD, 0x1CBF)]])

def sentenceLetter : CharSet :=
  diff (tables ([(0x5F3, 0x5F3)] :: alphabetic))
    (union sentenceLower (union sentenceUpper sentenceExtend))

def fullStops : RangeSet := [(0x2E, 0x2E), (0x2024, 0x2024), (0xFE52, 0xFE52), (0xFF0E, 0xFF0E)]

def sentenceClose : CharSet :=
  diff
    (tables [openPunctuation, closePunctuation, initialPunctuation, finalPunctuation, quotationMarks,
      [(0x275B, 0x2760), (0x2E00, 0x2E01), (0x2E06, 0x2E08), (0x2E0B, 0x2E0B), (0x1F676, 0x1F678)]])
    (tables [[(0xFF02, 0xFF02), (0xFF07, 0xFF07)]])

def sentenceContinue : RangeSet := [
  (0x2C, 0x2D), (0x3A, 0x3B), (0x37E, 0x37E), (0x55D, 0x55D), (0x60C, 0x60D), (0x7F8, 0x7F8),
  (0x1802, 0x1802), (0x1808, 0x1808), (0x2013, 0x2014), (0x3001, 0x3001), (0xFE10, 0xFE11),
  (0xFE13, 0xFE14), (0xFE31, 0xFE32), (0xFE50, 0xFE51), (0xFE54, 0xFE55), (0xFE58, 0xFE58),
  (0xFE63, 0xFE63), (0xFF0C, 0xFF0D), (0xFF1A, 0xFF1B), (0xFF64, 0xFF64)]

def separators : RangeSet := [(0x85, 0x85), (0x2028, 0x2029)]

def sentences : List (List String × CharSet) := [
  (["at", "aterm"], tables [fullStops]),
  (["cl", "close"], sentenceClose),
  (["cr"], tables [carriageReturn]),
  (["ex", "extend"], sentenceExtend),
  (["fo", "format"], diff (tables [formats]) (tables [joinControls, numberSigns, tags])),
  (["lf"], tables [lineFeed]),
  (["lo", "lower"], sentenceLower),
  (["nu", "numeric"], tables ([(0x66C, 0x66C)] :: numeric)),
  (["le", "oletter"], sentenceLetter),
  (["sc", "scontinue"], tables [sentenceContinue]),
  (["st", "sterm"], diff (tables [sentenceTerminals]) (tables [fullStops])),
  (["se", "sep"], tables [separators]),
  (["sp"], diff (tables [whiteSpace]) (tables [lineFeed, carriageReturn, separators])),
  (["up", "upper"], sentenceUpper)]

end Patchwork.Unicode.Break
