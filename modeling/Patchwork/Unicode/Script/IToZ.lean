import Patchwork.Unicode.RangeSet

set_option maxRecDepth 4000

namespace Patchwork.Unicode.Script

def imperialAramaic : RangeSet := [
  (0x10840, 0x10855), (0x10857, 0x1085F)]

def inherited : RangeSet := [
  (0x300, 0x36F), (0x485, 0x486), (0x64B, 0x655), (0x670, 0x670), (0x951, 0x954),
  (0x1AB0, 0x1ACE), (0x1CD0, 0x1CD2), (0x1CD4, 0x1CE0), (0x1CE2, 0x1CE8), (0x1CED, 0x1CED),
  (0x1CF4, 0x1CF4), (0x1CF8, 0x1CF9), (0x1DC0, 0x1DFF), (0x200C, 0x200D), (0x20D0, 0x20F0),
  (0x302A, 0x302D), (0x3099, 0x309A), (0xFE00, 0xFE0F), (0xFE20, 0xFE2D), (0x101FD, 0x101FD),
  (0x102E0, 0x102E0), (0x1133B, 0x1133B), (0x1CF00, 0x1CF2D), (0x1CF30, 0x1CF46),
  (0x1D167, 0x1D169), (0x1D17B, 0x1D182), (0x1D185, 0x1D18B), (0x1D1AA, 0x1D1AD),
  (0xE0100, 0xE01EF)]

def inscriptionalPahlavi : RangeSet := [
  (0x10B60, 0x10B72), (0x10B78, 0x10B7F)]

def inscriptionalParthian : RangeSet := [
  (0x10B40, 0x10B55), (0x10B58, 0x10B5F)]

def javanese : RangeSet := [
  (0xA980, 0xA9CD), (0xA9D0, 0xA9D9), (0xA9DE, 0xA9DF)]

def kaithi : RangeSet := [
  (0x11080, 0x110C2), (0x110CD, 0x110CD)]

def kannada : RangeSet := [
  (0xC80, 0xC8C), (0xC8E, 0xC90), (0xC92, 0xCA8), (0xCAA, 0xCB3), (0xCB5, 0xCB9), (0xCBC, 0xCC4),
  (0xCC6, 0xCC8), (0xCCA, 0xCCD), (0xCD5, 0xCD6), (0xCDD, 0xCDE), (0xCE0, 0xCE3), (0xCE6, 0xCEF),
  (0xCF1, 0xCF3)]

def katakana : RangeSet := [
  (0x30A1, 0x30FA), (0x30FD, 0x30FF), (0x31F0, 0x31FF), (0x32D0, 0x32FE), (0x3300, 0x3357),
  (0xFF66, 0xFF6F), (0xFF71, 0xFF9D), (0x1AFF0, 0x1AFF3), (0x1AFF5, 0x1AFFB), (0x1AFFD, 0x1AFFE),
  (0x1B000, 0x1B000), (0x1B120, 0x1B122), (0x1B155, 0x1B155), (0x1B164, 0x1B167)]

def kawi : RangeSet := [(0x11F00, 0x11F10), (0x11F12, 0x11F3A), (0x11F3E, 0x11F5A)]

def kayahLi : RangeSet := [
  (0xA900, 0xA92D), (0xA92F, 0xA92F)]

def kharoshthi : RangeSet := [
  (0x10A00, 0x10A03), (0x10A05, 0x10A06), (0x10A0C, 0x10A13), (0x10A15, 0x10A17),
  (0x10A19, 0x10A35), (0x10A38, 0x10A3A), (0x10A3F, 0x10A48), (0x10A50, 0x10A58)]

def khitanSmallScript : RangeSet := [(0x16FE4, 0x16FE4), (0x18B00, 0x18CD5), (0x18CFF, 0x18CFF)]

def khmer : RangeSet := [
  (0x1780, 0x17DD), (0x17E0, 0x17E9), (0x17F0, 0x17F9), (0x19E0, 0x19FF)]

def khojki : RangeSet := [
  (0x11200, 0x11211), (0x11213, 0x11241)]

def khudawadi : RangeSet := [
  (0x112B0, 0x112EA), (0x112F0, 0x112F9)]

def kiratRai : RangeSet := [(0x16D40, 0x16D79)]

def lao : RangeSet := [
  (0xE81, 0xE82), (0xE84, 0xE84), (0xE86, 0xE8A), (0xE8C, 0xEA3), (0xEA5, 0xEA5), (0xEA7, 0xEBD),
  (0xEC0, 0xEC4), (0xEC6, 0xEC6), (0xEC8, 0xECE), (0xED0, 0xED9), (0xEDC, 0xEDF)]

def latin : RangeSet := [
  (0x41, 0x5A), (0x61, 0x7A), (0xAA, 0xAA), (0xBA, 0xBA), (0xC0, 0xD6), (0xD8, 0xF6), (0xF8, 0x2B8),
  (0x2E0, 0x2E4), (0x1D00, 0x1D25), (0x1D2C, 0x1D5C), (0x1D62, 0x1D65), (0x1D6B, 0x1D77),
  (0x1D79, 0x1DBE), (0x1E00, 0x1EFF), (0x2071, 0x2071), (0x207F, 0x207F), (0x2090, 0x209C),
  (0x212A, 0x212B), (0x2132, 0x2132), (0x214E, 0x214E), (0x2160, 0x2188), (0x2C60, 0x2C7F),
  (0xA722, 0xA787), (0xA78B, 0xA7CD), (0xA7D0, 0xA7D1), (0xA7D3, 0xA7D3), (0xA7D5, 0xA7DC),
  (0xA7F2, 0xA7FF), (0xAB30, 0xAB5A), (0xAB5C, 0xAB64), (0xAB66, 0xAB69), (0xFB00, 0xFB06),
  (0xFF21, 0xFF3A), (0xFF41, 0xFF5A), (0x10780, 0x10785), (0x10787, 0x107B0), (0x107B2, 0x107BA),
  (0x1DF00, 0x1DF1E), (0x1DF25, 0x1DF2A)]

def lepcha : RangeSet := [
  (0x1C00, 0x1C37), (0x1C3B, 0x1C49), (0x1C4D, 0x1C4F)]

def limbu : RangeSet := [
  (0x1900, 0x191E), (0x1920, 0x192B), (0x1930, 0x193B), (0x1940, 0x1940), (0x1944, 0x194F)]

def linearA : RangeSet := [
  (0x10600, 0x10736), (0x10740, 0x10755), (0x10760, 0x10767)]

def linearB : RangeSet := [
  (0x10000, 0x1000B), (0x1000D, 0x10026), (0x10028, 0x1003A), (0x1003C, 0x1003D),
  (0x1003F, 0x1004D), (0x10050, 0x1005D), (0x10080, 0x100FA)]

def lisu : RangeSet := [
  (0xA4D0, 0xA4FF), (0x11FB0, 0x11FB0)]

def lycian : RangeSet := [
  (0x10280, 0x1029C)]

def lydian : RangeSet := [
  (0x10920, 0x10939), (0x1093F, 0x1093F)]

def mahajani : RangeSet := [
  (0x11150, 0x11176)]

def makasar : RangeSet := [
  (0x11EE0, 0x11EF8)]

def malayalam : RangeSet := [
  (0xD00, 0xD0C), (0xD0E, 0xD10), (0xD12, 0xD44), (0xD46, 0xD48), (0xD4A, 0xD4F), (0xD54, 0xD63),
  (0xD66, 0xD7F)]

def mandaic : RangeSet := [
  (0x840, 0x85B), (0x85E, 0x85E)]

def manichaean : RangeSet := [
  (0x10AC0, 0x10AE6), (0x10AEB, 0x10AF6)]

def marchen : RangeSet := [
  (0x11C70, 0x11C8F), (0x11C92, 0x11CA7), (0x11CA9, 0x11CB6)]

def masaramGondi : RangeSet := [
  (0x11D00, 0x11D06), (0x11D08, 0x11D09), (0x11D0B, 0x11D36), (0x11D3A, 0x11D3A),
  (0x11D3C, 0x11D3D), (0x11D3F, 0x11D47), (0x11D50, 0x11D59)]

def medefaidrin : RangeSet := [
  (0x16E40, 0x16E9A)]

def meeteiMayek : RangeSet := [
  (0xAAE0, 0xAAF6), (0xABC0, 0xABED), (0xABF0, 0xABF9)]

def mendeKikakui : RangeSet := [
  (0x1E800, 0x1E8C4), (0x1E8C7, 0x1E8D6)]

def meroiticCursive : RangeSet := [
  (0x109A0, 0x109B7), (0x109BC, 0x109CF), (0x109D2, 0x109FF)]

def meroiticHieroglyphs : RangeSet := [
  (0x10980, 0x1099F)]

def miao : RangeSet := [
  (0x16F00, 0x16F4A), (0x16F4F, 0x16F87), (0x16F8F, 0x16F9F)]

def modi : RangeSet := [
  (0x11600, 0x11644), (0x11650, 0x11659)]

def mongolian : RangeSet := [
  (0x1800, 0x1801), (0x1804, 0x1804), (0x1806, 0x1819), (0x1820, 0x1878), (0x1880, 0x18AA),
  (0x11660, 0x1166C)]

def mro : RangeSet := [
  (0x16A40, 0x16A5E), (0x16A60, 0x16A69), (0x16A6E, 0x16A6F)]

def multani : RangeSet := [
  (0x11280, 0x11286), (0x11288, 0x11288), (0x1128A, 0x1128D), (0x1128F, 0x1129D),
  (0x1129F, 0x112A9)]

def myanmar : RangeSet := [(0x1000, 0x109F), (0xA9E0, 0xA9FE), (0xAA60, 0xAA7F), (0x116D0, 0x116E3)]

def nabataean : RangeSet := [
  (0x10880, 0x1089E), (0x108A7, 0x108AF)]

def nagMundari : RangeSet := [
  (0x1E4D0, 0x1E4F9)]

def nandinagari : RangeSet := [
  (0x119A0, 0x119A7), (0x119AA, 0x119D7), (0x119DA, 0x119E4)]

def newTaiLue : RangeSet := [
  (0x1980, 0x19AB), (0x19B0, 0x19C9), (0x19D0, 0x19DA), (0x19DE, 0x19DF)]

def newa : RangeSet := [
  (0x11400, 0x1145B), (0x1145D, 0x11461)]

def nko : RangeSet := [
  (0x7C0, 0x7FA), (0x7FD, 0x7FF)]

def nushu : RangeSet := [
  (0x16FE1, 0x16FE1), (0x1B170, 0x1B2FB)]

def nyiakengPuachueHmong : RangeSet := [
  (0x1E100, 0x1E12C), (0x1E130, 0x1E13D), (0x1E140, 0x1E149), (0x1E14E, 0x1E14F)]

def ogham : RangeSet := [
  (0x1680, 0x169C)]

def olChiki : RangeSet := [
  (0x1C50, 0x1C7F)]

def olOnal : RangeSet := [(0x1E5D0, 0x1E5FA), (0x1E5FF, 0x1E5FF)]

def oldHungarian : RangeSet := [
  (0x10C80, 0x10CB2), (0x10CC0, 0x10CF2), (0x10CFA, 0x10CFF)]

def oldItalic : RangeSet := [
  (0x10300, 0x10323), (0x1032D, 0x1032F)]

def oldNorthArabian : RangeSet := [
  (0x10A80, 0x10A9F)]

def oldPermic : RangeSet := [
  (0x10350, 0x1037A)]

def oldPersian : RangeSet := [
  (0x103A0, 0x103C3), (0x103C8, 0x103D5)]

def oldSogdian : RangeSet := [
  (0x10F00, 0x10F27)]

def oldSouthArabian : RangeSet := [
  (0x10A60, 0x10A7F)]

def oldTurkic : RangeSet := [
  (0x10C00, 0x10C48)]

def oldUyghur : RangeSet := [
  (0x10F70, 0x10F89)]

def oriya : RangeSet := [
  (0xB01, 0xB03), (0xB05, 0xB0C), (0xB0F, 0xB10), (0xB13, 0xB28), (0xB2A, 0xB30), (0xB32, 0xB33),
  (0xB35, 0xB39), (0xB3C, 0xB44), (0xB47, 0xB48), (0xB4B, 0xB4D), (0xB55, 0xB57), (0xB5C, 0xB5D),
  (0xB5F, 0xB63), (0xB66, 0xB77)]

def osage : RangeSet := [
  (0x104B0, 0x104D3), (0x104D8, 0x104FB)]

def osmanya : RangeSet := [
  (0x10480, 0x1049D), (0x104A0, 0x104A9)]

def pahawhHmong : RangeSet := [
  (0x16B00, 0x16B45), (0x16B50, 0x16B59), (0x16B5B, 0x16B61), (0x16B63, 0x16B77),
  (0x16B7D, 0x16B8F)]

def palmyrene : RangeSet := [
  (0x10860, 0x1087F)]

def pauCinHau : RangeSet := [
  (0x11AC0, 0x11AF8)]

def phagsPa : RangeSet := [
  (0xA840, 0xA877)]

def phoenician : RangeSet := [
  (0x10900, 0x1091B), (0x1091F, 0x1091F)]

def psalterPahlavi : RangeSet := [
  (0x10B80, 0x10B91), (0x10B99, 0x10B9C), (0x10BA9, 0x10BAF)]

def rejang : RangeSet := [
  (0xA930, 0xA953), (0xA95F, 0xA95F)]

def runic : RangeSet := [
  (0x16A0, 0x16EA), (0x16EE, 0x16F8)]

def samaritan : RangeSet := [
  (0x800, 0x82D), (0x830, 0x83E)]

def saurashtra : RangeSet := [
  (0xA880, 0xA8C5), (0xA8CE, 0xA8D9)]

def sharada : RangeSet := [
  (0x11180, 0x111DF)]

def shavian : RangeSet := [
  (0x10450, 0x1047F)]

def siddham : RangeSet := [
  (0x11580, 0x115B5), (0x115B8, 0x115DD)]

def signWriting : RangeSet := [
  (0x1D800, 0x1DA8B), (0x1DA9B, 0x1DA9F), (0x1DAA1, 0x1DAAF)]

def sinhala : RangeSet := [
  (0xD81, 0xD83), (0xD85, 0xD96), (0xD9A, 0xDB1), (0xDB3, 0xDBB), (0xDBD, 0xDBD), (0xDC0, 0xDC6),
  (0xDCA, 0xDCA), (0xDCF, 0xDD4), (0xDD6, 0xDD6), (0xDD8, 0xDDF), (0xDE6, 0xDEF), (0xDF2, 0xDF4),
  (0x111E1, 0x111F4)]

def sogdian : RangeSet := [
  (0x10F30, 0x10F59)]

def soraSompeng : RangeSet := [
  (0x110D0, 0x110E8), (0x110F0, 0x110F9)]

def soyombo : RangeSet := [
  (0x11A50, 0x11AA2)]

def sundanese : RangeSet := [
  (0x1B80, 0x1BBF), (0x1CC0, 0x1CC7)]

def sunuwar : RangeSet := [(0x11BC0, 0x11BE1), (0x11BF0, 0x11BF9)]

def sylotiNagri : RangeSet := [
  (0xA800, 0xA82C)]

def syriac : RangeSet := [
  (0x700, 0x70D), (0x70F, 0x74A), (0x74D, 0x74F), (0x860, 0x86A)]

def tagalog : RangeSet := [
  (0x1700, 0x1715), (0x171F, 0x171F)]

def tagbanwa : RangeSet := [
  (0x1760, 0x176C), (0x176E, 0x1770), (0x1772, 0x1773)]

def taiLe : RangeSet := [
  (0x1950, 0x196D), (0x1970, 0x1974)]

def taiTham : RangeSet := [
  (0x1A20, 0x1A5E), (0x1A60, 0x1A7C), (0x1A7F, 0x1A89), (0x1A90, 0x1A99), (0x1AA0, 0x1AAD)]

def taiViet : RangeSet := [
  (0xAA80, 0xAAC2), (0xAADB, 0xAADF)]

def takri : RangeSet := [
  (0x11680, 0x116B9), (0x116C0, 0x116C9)]

def tamil : RangeSet := [
  (0xB82, 0xB83), (0xB85, 0xB8A), (0xB8E, 0xB90), (0xB92, 0xB95), (0xB99, 0xB9A), (0xB9C, 0xB9C),
  (0xB9E, 0xB9F), (0xBA3, 0xBA4), (0xBA8, 0xBAA), (0xBAE, 0xBB9), (0xBBE, 0xBC2), (0xBC6, 0xBC8),
  (0xBCA, 0xBCD), (0xBD0, 0xBD0), (0xBD7, 0xBD7), (0xBE6, 0xBFA), (0x11FC0, 0x11FF1),
  (0x11FFF, 0x11FFF)]

def tangsa : RangeSet := [
  (0x16A70, 0x16ABE), (0x16AC0, 0x16AC9)]

def tangut : RangeSet := [
  (0x16FE0, 0x16FE0), (0x17000, 0x187F7), (0x18800, 0x18AFF), (0x18D00, 0x18D08)]

def telugu : RangeSet := [
  (0xC00, 0xC0C), (0xC0E, 0xC10), (0xC12, 0xC28), (0xC2A, 0xC39), (0xC3C, 0xC44), (0xC46, 0xC48),
  (0xC4A, 0xC4D), (0xC55, 0xC56), (0xC58, 0xC5A), (0xC5D, 0xC5D), (0xC60, 0xC63), (0xC66, 0xC6F),
  (0xC77, 0xC7F)]

def thaana : RangeSet := [
  (0x780, 0x7B1)]

def thai : RangeSet := [
  (0xE01, 0xE3A), (0xE40, 0xE5B)]

def tibetan : RangeSet := [
  (0xF00, 0xF47), (0xF49, 0xF6C), (0xF71, 0xF97), (0xF99, 0xFBC), (0xFBE, 0xFCC), (0xFCE, 0xFD4),
  (0xFD9, 0xFDA)]

def tifinagh : RangeSet := [
  (0x2D30, 0x2D67), (0x2D6F, 0x2D70), (0x2D7F, 0x2D7F)]

def tirhuta : RangeSet := [
  (0x11480, 0x114C7), (0x114D0, 0x114D9)]

def todhri : RangeSet := [(0x105C0, 0x105F3)]

def toto : RangeSet := [
  (0x1E290, 0x1E2AE)]

def tuluTigalari : RangeSet := [
  (0x11380, 0x11389), (0x1138B, 0x1138B), (0x1138E, 0x1138E), (0x11390, 0x113B5),
  (0x113B7, 0x113C0), (0x113C2, 0x113C2), (0x113C5, 0x113C5), (0x113C7, 0x113CA),
  (0x113CC, 0x113D5), (0x113D7, 0x113D8), (0x113E1, 0x113E2)]

def ugaritic : RangeSet := [
  (0x10380, 0x1039D), (0x1039F, 0x1039F)]

def vai : RangeSet := [
  (0xA500, 0xA62B)]

def vithkuqi : RangeSet := [
  (0x10570, 0x1057A), (0x1057C, 0x1058A), (0x1058C, 0x10592), (0x10594, 0x10595),
  (0x10597, 0x105A1), (0x105A3, 0x105B1), (0x105B3, 0x105B9), (0x105BB, 0x105BC)]

def wancho : RangeSet := [
  (0x1E2C0, 0x1E2F9), (0x1E2FF, 0x1E2FF)]

def warangCiti : RangeSet := [
  (0x118A0, 0x118F2), (0x118FF, 0x118FF)]

def yezidi : RangeSet := [
  (0x10E80, 0x10EA9), (0x10EAB, 0x10EAD), (0x10EB0, 0x10EB1)]

def yi : RangeSet := [
  (0xA000, 0xA48C), (0xA490, 0xA4C6)]

def zanabazarSquare : RangeSet := [
  (0x11A00, 0x11A47)]

end Patchwork.Unicode.Script
