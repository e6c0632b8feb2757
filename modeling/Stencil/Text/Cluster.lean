import Stencil.Text.Letter

/-!
# Grapheme clusters

A reader sees one character where a text may have several: a letter and its
accents, a syllable of Hangul, a flag, a person with a profession.  A text is cut
into such clusters between every two characters that nothing holds together.
-/

namespace Stencil.Text

/-- How a character takes part in clusters. -/
inductive BreakClass where
  | carriageReturn
  | lineFeed
  | control
  /-- Accents and other marks that follow a character. -/
  | extender
  | joiner
  | spacingMark
  /-- Marks that stand in front of a character. -/
  | preposed
  /-- Half of a flag. -/
  | regional
  | hangulLead
  | hangulVowel
  | hangulTail
  /-- A syllable of a lead and a vowel. -/
  | hangulOpen
  /-- A syllable with a tail. -/
  | hangulClosed
  /-- A person or a hand whose skin tone may follow. -/
  | emojiBase
  /-- Such a person who may also follow a joiner. -/
  | emojiMember
  | emojiModifier
  /-- A thing that may follow a joiner. -/
  | emojiThing
  | other
deriving DecidableEq, Repr

set_option maxRecDepth 4000 in
def extenderSpans : List Span := [
  (0x300, 0x36F, 1), (0x483, 0x489, 1), (0x591, 0x5BD, 1), (0x5BF, 0x5BF, 1), (0x5C1, 0x5C2, 1),
  (0x5C4, 0x5C5, 1), (0x5C7, 0x5C7, 1), (0x610, 0x61A, 1), (0x64B, 0x65F, 1), (0x670, 0x670, 1),
  (0x6D6, 0x6DC, 1), (0x6DF, 0x6E4, 1), (0x6E7, 0x6E8, 1), (0x6EA, 0x6ED, 1), (0x711, 0x711, 1),
  (0x730, 0x74A, 1), (0x7A6, 0x7B0, 1), (0x7EB, 0x7F3, 1), (0x816, 0x819, 1), (0x81B, 0x823, 1),
  (0x825, 0x827, 1), (0x829, 0x82D, 1), (0x859, 0x85B, 1), (0x8D4, 0x8E1, 1), (0x8E3, 0x902, 1),
  (0x93A, 0x93C, 2), (0x941, 0x948, 1), (0x94D, 0x94D, 1), (0x951, 0x957, 1), (0x962, 0x963, 1),
  (0x981, 0x981, 1), (0x9BC, 0x9BE, 2), (0x9C1, 0x9C4, 1), (0x9CD, 0x9CD, 1), (0x9D7, 0x9D7, 1),
  (0x9E2, 0x9E3, 1), (0xA01, 0xA02, 1), (0xA3C, 0xA3C, 1), (0xA41, 0xA42, 1), (0xA47, 0xA48, 1),
  (0xA4B, 0xA4D, 1), (0xA51, 0xA51, 1), (0xA70, 0xA71, 1), (0xA75, 0xA75, 1), (0xA81, 0xA82, 1),
  (0xABC, 0xABC, 1), (0xAC1, 0xAC5, 1), (0xAC7, 0xAC8, 1), (0xACD, 0xACD, 1), (0xAE2, 0xAE3, 1),
  (0xAFA, 0xAFF, 1), (0xB01, 0xB01, 1), (0xB3C, 0xB3C, 1), (0xB3E, 0xB3F, 1), (0xB41, 0xB44, 1),
  (0xB4D, 0xB4D, 1), (0xB56, 0xB57, 1), (0xB62, 0xB63, 1), (0xB82, 0xB82, 1), (0xBBE, 0xBC0, 2),
  (0xBCD, 0xBCD, 1), (0xBD7, 0xBD7, 1), (0xC00, 0xC00, 1), (0xC3E, 0xC40, 1), (0xC46, 0xC48, 1),
  (0xC4A, 0xC4D, 1), (0xC55, 0xC56, 1), (0xC62, 0xC63, 1), (0xC81, 0xC81, 1), (0xCBC, 0xCBC, 1),
  (0xCBF, 0xCBF, 1), (0xCC2, 0xCC2, 1), (0xCC6, 0xCC6, 1), (0xCCC, 0xCCD, 1), (0xCD5, 0xCD6, 1),
  (0xCE2, 0xCE3, 1), (0xD00, 0xD01, 1), (0xD3B, 0xD3C, 1), (0xD3E, 0xD3E, 1), (0xD41, 0xD44, 1),
  (0xD4D, 0xD4D, 1), (0xD57, 0xD57, 1), (0xD62, 0xD63, 1), (0xDCA, 0xDCA, 1), (0xDCF, 0xDCF, 1),
  (0xDD2, 0xDD4, 1), (0xDD6, 0xDD6, 1), (0xDDF, 0xDDF, 1), (0xE31, 0xE31, 1), (0xE34, 0xE3A, 1),
  (0xE47, 0xE4E, 1), (0xEB1, 0xEB1, 1), (0xEB4, 0xEB9, 1), (0xEBB, 0xEBC, 1), (0xEC8, 0xECD, 1),
  (0xF18, 0xF19, 1), (0xF35, 0xF39, 2), (0xF71, 0xF7E, 1), (0xF80, 0xF84, 1), (0xF86, 0xF87, 1),
  (0xF8D, 0xF97, 1), (0xF99, 0xFBC, 1), (0xFC6, 0xFC6, 1), (0x102D, 0x1030, 1),
  (0x1032, 0x1037, 1), (0x1039, 0x103A, 1), (0x103D, 0x103E, 1), (0x1058, 0x1059, 1),
  (0x105E, 0x1060, 1), (0x1071, 0x1074, 1), (0x1082, 0x1082, 1), (0x1085, 0x1086, 1),
  (0x108D, 0x108D, 1), (0x109D, 0x109D, 1), (0x135D, 0x135F, 1), (0x1712, 0x1714, 1),
  (0x1732, 0x1733, 1), (0x1752, 0x1753, 1), (0x1772, 0x1773, 1), (0x17B4, 0x17B5, 1),
  (0x17B7, 0x17BD, 1), (0x17C6, 0x17C6, 1), (0x17C9, 0x17D3, 1), (0x17DD, 0x17DD, 1),
  (0x180B, 0x180D, 1), (0x1885, 0x1886, 1), (0x18A9, 0x18A9, 1), (0x1920, 0x1922, 1),
  (0x1927, 0x1928, 1), (0x1932, 0x1932, 1), (0x1939, 0x193B, 1), (0x1A17, 0x1A18, 1),
  (0x1A1B, 0x1A1B, 1), (0x1A56, 0x1A56, 1), (0x1A58, 0x1A5E, 1), (0x1A60, 0x1A62, 2),
  (0x1A65, 0x1A6C, 1), (0x1A73, 0x1A7C, 1), (0x1A7F, 0x1A7F, 1), (0x1AB0, 0x1ABE, 1),
  (0x1B00, 0x1B03, 1), (0x1B34, 0x1B3A, 1), (0x1B3C, 0x1B3C, 1), (0x1B42, 0x1B42, 1),
  (0x1B6B, 0x1B73, 1), (0x1B80, 0x1B81, 1), (0x1BA2, 0x1BA5, 1), (0x1BA8, 0x1BA9, 1),
  (0x1BAB, 0x1BAD, 1), (0x1BE6, 0x1BE6, 1), (0x1BE8, 0x1BE9, 1), (0x1BED, 0x1BED, 1),
  (0x1BEF, 0x1BF1, 1), (0x1C2C, 0x1C33, 1), (0x1C36, 0x1C37, 1), (0x1CD0, 0x1CD2, 1),
  (0x1CD4, 0x1CE0, 1), (0x1CE2, 0x1CE8, 1), (0x1CED, 0x1CED, 1), (0x1CF4, 0x1CF4, 1),
  (0x1CF8, 0x1CF9, 1), (0x1DC0, 0x1DF9, 1), (0x1DFB, 0x1DFF, 1), (0x200C, 0x200C, 1),
  (0x20D0, 0x20F0, 1), (0x2CEF, 0x2CF1, 1), (0x2D7F, 0x2D7F, 1), (0x2DE0, 0x2DFF, 1),
  (0x302A, 0x302F, 1), (0x3099, 0x309A, 1), (0xA66F, 0xA672, 1), (0xA674, 0xA67D, 1),
  (0xA69E, 0xA69F, 1), (0xA6F0, 0xA6F1, 1), (0xA802, 0xA802, 1), (0xA806, 0xA806, 1),
  (0xA80B, 0xA80B, 1), (0xA825, 0xA826, 1), (0xA8C4, 0xA8C5, 1), (0xA8E0, 0xA8F1, 1),
  (0xA926, 0xA92D, 1), (0xA947, 0xA951, 1), (0xA980, 0xA982, 1), (0xA9B3, 0xA9B3, 1),
  (0xA9B6, 0xA9B9, 1), (0xA9BC, 0xA9BD, 1), (0xA9E5, 0xA9E5, 1), (0xAA29, 0xAA2E, 1),
  (0xAA31, 0xAA32, 1), (0xAA35, 0xAA36, 1), (0xAA43, 0xAA43, 1), (0xAA4C, 0xAA4C, 1),
  (0xAA7C, 0xAA7C, 1), (0xAAB0, 0xAAB0, 1), (0xAAB2, 0xAAB4, 1), (0xAAB7, 0xAAB8, 1),
  (0xAABE, 0xAABF, 1), (0xAAC1, 0xAAC1, 1), (0xAAEC, 0xAAED, 1), (0xAAF6, 0xAAF6, 1),
  (0xABE5, 0xABE5, 1), (0xABE8, 0xABE8, 1), (0xABED, 0xABED, 1), (0xFB1E, 0xFB1E, 1),
  (0xFE00, 0xFE0F, 1), (0xFE20, 0xFE2F, 1), (0xFF9E, 0xFF9F, 1), (0x101FD, 0x101FD, 1),
  (0x102E0, 0x102E0, 1), (0x10376, 0x1037A, 1), (0x10A01, 0x10A03, 1), (0x10A05, 0x10A06, 1),
  (0x10A0C, 0x10A0F, 1), (0x10A38, 0x10A3A, 1), (0x10A3F, 0x10A3F, 1), (0x10AE5, 0x10AE6, 1),
  (0x11001, 0x11001, 1), (0x11038, 0x11046, 1), (0x1107F, 0x11081, 1), (0x110B3, 0x110B6, 1),
  (0x110B9, 0x110BA, 1), (0x11100, 0x11102, 1), (0x11127, 0x1112B, 1), (0x1112D, 0x11134, 1),
  (0x11173, 0x11173, 1), (0x11180, 0x11181, 1), (0x111B6, 0x111BE, 1), (0x111C9, 0x111CC, 1),
  (0x1122F, 0x11231, 1), (0x11234, 0x11234, 1), (0x11236, 0x11237, 1), (0x1123E, 0x1123E, 1),
  (0x112DF, 0x112DF, 1), (0x112E3, 0x112EA, 1), (0x11300, 0x11301, 1), (0x1133C, 0x11340, 2),
  (0x11357, 0x11357, 1), (0x11366, 0x1136C, 1), (0x11370, 0x11374, 1), (0x11438, 0x1143F, 1),
  (0x11442, 0x11444, 1), (0x11446, 0x11446, 1), (0x114B0, 0x114B0, 1), (0x114B3, 0x114B8, 1),
  (0x114BA, 0x114BA, 1), (0x114BD, 0x114BD, 1), (0x114BF, 0x114C0, 1), (0x114C2, 0x114C3, 1),
  (0x115AF, 0x115AF, 1), (0x115B2, 0x115B5, 1), (0x115BC, 0x115BD, 1), (0x115BF, 0x115C0, 1),
  (0x115DC, 0x115DD, 1), (0x11633, 0x1163A, 1), (0x1163D, 0x1163D, 1), (0x1163F, 0x11640, 1),
  (0x116AB, 0x116AD, 2), (0x116B0, 0x116B5, 1), (0x116B7, 0x116B7, 1), (0x1171D, 0x1171F, 1),
  (0x11722, 0x11725, 1), (0x11727, 0x1172B, 1), (0x11A01, 0x11A0A, 1), (0x11A33, 0x11A38, 1),
  (0x11A3B, 0x11A3E, 1), (0x11A47, 0x11A47, 1), (0x11A51, 0x11A56, 1), (0x11A59, 0x11A5B, 1),
  (0x11A8A, 0x11A96, 1), (0x11A98, 0x11A99, 1), (0x11C30, 0x11C36, 1), (0x11C38, 0x11C3D, 1),
  (0x11C3F, 0x11C3F, 1), (0x11C92, 0x11CA7, 1), (0x11CAA, 0x11CB0, 1), (0x11CB2, 0x11CB3, 1),
  (0x11CB5, 0x11CB6, 1), (0x11D31, 0x11D36, 1), (0x11D3A, 0x11D3A, 1), (0x11D3C, 0x11D3D, 1),
  (0x11D3F, 0x11D45, 1), (0x11D47, 0x11D47, 1), (0x16AF0, 0x16AF4, 1), (0x16B30, 0x16B36, 1),
  (0x16F8F, 0x16F92, 1), (0x1BC9D, 0x1BC9E, 1), (0x1D165, 0x1D165, 1), (0x1D167, 0x1D169, 1),
  (0x1D16E, 0x1D172, 1), (0x1D17B, 0x1D182, 1), (0x1D185, 0x1D18B, 1), (0x1D1AA, 0x1D1AD, 1),
  (0x1D242, 0x1D244, 1), (0x1DA00, 0x1DA36, 1), (0x1DA3B, 0x1DA6C, 1), (0x1DA75, 0x1DA75, 1),
  (0x1DA84, 0x1DA84, 1), (0x1DA9B, 0x1DA9F, 1), (0x1DAA1, 0x1DAAF, 1), (0x1E000, 0x1E006, 1),
  (0x1E008, 0x1E018, 1), (0x1E01B, 0x1E021, 1), (0x1E023, 0x1E024, 1), (0x1E026, 0x1E02A, 1),
  (0x1E8D0, 0x1E8D6, 1), (0x1E944, 0x1E94A, 1), (0xE0020, 0xE007F, 1), (0xE0100, 0xE01EF, 1)]

def spacingMarkSpans : List Span := [
  (0x903, 0x903, 1), (0x93B, 0x93B, 1), (0x93E, 0x940, 1), (0x949, 0x94C, 1), (0x94E, 0x94F, 1),
  (0x982, 0x983, 1), (0x9BF, 0x9C0, 1), (0x9C7, 0x9C8, 1), (0x9CB, 0x9CC, 1), (0xA03, 0xA03, 1),
  (0xA3E, 0xA40, 1), (0xA83, 0xA83, 1), (0xABE, 0xAC0, 1), (0xAC9, 0xAC9, 1), (0xACB, 0xACC, 1),
  (0xB02, 0xB03, 1), (0xB40, 0xB40, 1), (0xB47, 0xB48, 1), (0xB4B, 0xB4C, 1), (0xBBF, 0xBBF, 1),
  (0xBC1, 0xBC2, 1), (0xBC6, 0xBC8, 1), (0xBCA, 0xBCC, 1), (0xC01, 0xC03, 1), (0xC41, 0xC44, 1),
  (0xC82, 0xC83, 1), (0xCBE, 0xCBE, 1), (0xCC0, 0xCC1, 1), (0xCC3, 0xCC4, 1), (0xCC7, 0xCC8, 1),
  (0xCCA, 0xCCB, 1), (0xD02, 0xD03, 1), (0xD3F, 0xD40, 1), (0xD46, 0xD48, 1), (0xD4A, 0xD4C, 1),
  (0xD82, 0xD83, 1), (0xDD0, 0xDD1, 1), (0xDD8, 0xDDE, 1), (0xDF2, 0xDF3, 1), (0xE33, 0xE33, 1),
  (0xEB3, 0xEB3, 1), (0xF3E, 0xF3F, 1), (0xF7F, 0xF7F, 1), (0x1031, 0x1031, 1),
  (0x103B, 0x103C, 1), (0x1056, 0x1057, 1), (0x1084, 0x1084, 1), (0x1734, 0x1734, 1),
  (0x17B6, 0x17B6, 1), (0x17BE, 0x17C5, 1), (0x17C7, 0x17C8, 1), (0x1923, 0x1926, 1),
  (0x1929, 0x192B, 1), (0x1930, 0x1931, 1), (0x1933, 0x1938, 1), (0x1A19, 0x1A1A, 1),
  (0x1A55, 0x1A57, 2), (0x1A6D, 0x1A72, 1), (0x1B04, 0x1B04, 1), (0x1B3B, 0x1B3B, 1),
  (0x1B3D, 0x1B41, 1), (0x1B43, 0x1B44, 1), (0x1B82, 0x1B82, 1), (0x1BA1, 0x1BA1, 1),
  (0x1BA6, 0x1BA7, 1), (0x1BAA, 0x1BAA, 1), (0x1BE7, 0x1BE7, 1), (0x1BEA, 0x1BEC, 1),
  (0x1BEE, 0x1BEE, 1), (0x1BF2, 0x1BF3, 1), (0x1C24, 0x1C2B, 1), (0x1C34, 0x1C35, 1),
  (0x1CE1, 0x1CE1, 1), (0x1CF7, 0x1CF7, 1), (0xA823, 0xA824, 1), (0xA827, 0xA827, 1),
  (0xA880, 0xA881, 1), (0xA8B4, 0xA8C3, 1), (0xA952, 0xA953, 1), (0xA983, 0xA983, 1),
  (0xA9B4, 0xA9B5, 1), (0xA9BA, 0xA9BB, 1), (0xA9BE, 0xA9C0, 1), (0xAA2F, 0xAA30, 1),
  (0xAA33, 0xAA34, 1), (0xAA4D, 0xAA4D, 1), (0xAAEB, 0xAAEB, 1), (0xAAEE, 0xAAEF, 1),
  (0xAAF5, 0xAAF5, 1), (0xABE3, 0xABE4, 1), (0xABE6, 0xABE7, 1), (0xABE9, 0xABEA, 1),
  (0xABEC, 0xABEC, 1), (0x11000, 0x11002, 2), (0x11082, 0x11082, 1), (0x110B0, 0x110B2, 1),
  (0x110B7, 0x110B8, 1), (0x1112C, 0x1112C, 1), (0x11182, 0x11182, 1), (0x111B3, 0x111B5, 1),
  (0x111BF, 0x111C0, 1), (0x1122C, 0x1122E, 1), (0x11232, 0x11233, 1), (0x11235, 0x11235, 1),
  (0x112E0, 0x112E2, 1), (0x11302, 0x11303, 1), (0x1133F, 0x1133F, 1), (0x11341, 0x11344, 1),
  (0x11347, 0x11348, 1), (0x1134B, 0x1134D, 1), (0x11362, 0x11363, 1), (0x11435, 0x11437, 1),
  (0x11440, 0x11441, 1), (0x11445, 0x11445, 1), (0x114B1, 0x114B2, 1), (0x114B9, 0x114B9, 1),
  (0x114BB, 0x114BC, 1), (0x114BE, 0x114BE, 1), (0x114C1, 0x114C1, 1), (0x115B0, 0x115B1, 1),
  (0x115B8, 0x115BB, 1), (0x115BE, 0x115BE, 1), (0x11630, 0x11632, 1), (0x1163B, 0x1163C, 1),
  (0x1163E, 0x1163E, 1), (0x116AC, 0x116AC, 1), (0x116AE, 0x116AF, 1), (0x116B6, 0x116B6, 1),
  (0x11726, 0x11726, 1), (0x11A39, 0x11A39, 1), (0x11A57, 0x11A58, 1), (0x11A97, 0x11A97, 1),
  (0x11C2F, 0x11C2F, 1), (0x11C3E, 0x11C3E, 1), (0x11CA9, 0x11CA9, 1), (0x11CB1, 0x11CB1, 1),
  (0x11CB4, 0x11CB4, 1), (0x16F51, 0x16F7E, 1), (0x1D166, 0x1D166, 1), (0x1D16D, 0x1D16D, 1)]

/-- Characters that stand in front of another one. -/
def preposedSpans : List Span := [
  (0x600, 0x605, 1), (0x6DD, 0x6DD, 1), (0x70F, 0x70F, 1), (0x8E2, 0x8E2, 1), (0xD4E, 0xD4E, 1),
  (0x110BD, 0x110BD, 1), (0x111C2, 0x111C3, 1), (0x11A3A, 0x11A3A, 1), (0x11A86, 0x11A89, 1),
  (0x11D46, 0x11D46, 1)]

def controlSpans : List Span := [
  (0x80, 0x9F, 1), (0xAD, 0xAD, 1), (0x61C, 0x61C, 1), (0x180E, 0x180E, 1), (0x200B, 0x200B, 1),
  (0x200E, 0x200F, 1), (0x2028, 0x202E, 1), (0x2060, 0x206F, 1), (0xFEFF, 0xFEFF, 1),
  (0xFFF0, 0xFFFB, 1), (0x1BCA0, 0x1BCA3, 1), (0x1D173, 0x1D17A, 1), (0xE0000, 0xE001F, 1),
  (0xE0080, 0xE00FF, 1), (0xE01F0, 0xE0FFF, 1)]

def emojiBaseSpans : List Span := [
  (0x261D, 0x261D, 1), (0x26F9, 0x26F9, 1), (0x270A, 0x270D, 1), (0x1F385, 0x1F385, 1),
  (0x1F3C2, 0x1F3C4, 1), (0x1F3C7, 0x1F3C7, 1), (0x1F3CA, 0x1F3CC, 1), (0x1F442, 0x1F443, 1),
  (0x1F446, 0x1F450, 1), (0x1F46E, 0x1F46E, 1), (0x1F470, 0x1F478, 1), (0x1F47C, 0x1F47C, 1),
  (0x1F481, 0x1F483, 1), (0x1F485, 0x1F487, 1), (0x1F4AA, 0x1F4AA, 1), (0x1F574, 0x1F575, 1),
  (0x1F57A, 0x1F57A, 1), (0x1F590, 0x1F590, 1), (0x1F595, 0x1F596, 1), (0x1F645, 0x1F647, 1),
  (0x1F64B, 0x1F64F, 1), (0x1F6A3, 0x1F6A3, 1), (0x1F6B4, 0x1F6B6, 1), (0x1F6C0, 0x1F6C0, 1),
  (0x1F6CC, 0x1F6CC, 1), (0x1F918, 0x1F91C, 1), (0x1F91E, 0x1F91F, 1), (0x1F926, 0x1F926, 1),
  (0x1F930, 0x1F939, 1), (0x1F93D, 0x1F93E, 1), (0x1F9D1, 0x1F9DD, 1)]

def emojiThingSpans : List Span := [
  (0x2640, 0x2642, 2), (0x2695, 0x2696, 1), (0x2708, 0x2708, 1), (0x2764, 0x2764, 1),
  (0x1F308, 0x1F308, 1), (0x1F33E, 0x1F33E, 1), (0x1F373, 0x1F373, 1), (0x1F393, 0x1F393, 1),
  (0x1F3A4, 0x1F3A4, 1), (0x1F3A8, 0x1F3A8, 1), (0x1F3EB, 0x1F3ED, 2), (0x1F48B, 0x1F48B, 1),
  (0x1F4BB, 0x1F4BC, 1), (0x1F527, 0x1F527, 1), (0x1F52C, 0x1F52C, 1), (0x1F5E8, 0x1F5E8, 1),
  (0x1F680, 0x1F680, 1), (0x1F692, 0x1F692, 1)]

/-- The syllables of Hangul: every twenty-eighth one has no tail. -/
def syllableClass? (code : Nat) : Option BreakClass :=
  if 0xAC00 ≤ code ∧ code ≤ 0xD7A3 then
    some (if (code - 0xAC00) % 28 = 0 then .hangulOpen else .hangulClosed)
  else if (0x1100 ≤ code ∧ code ≤ 0x115F) ∨ (0xA960 ≤ code ∧ code ≤ 0xA97C) then some .hangulLead
  else if (0x1160 ≤ code ∧ code ≤ 0x11A7) ∨ (0xD7B0 ≤ code ∧ code ≤ 0xD7C6) then some .hangulVowel
  else if (0x11A8 ≤ code ∧ code ≤ 0x11FF) ∨ (0xD7CB ≤ code ∧ code ≤ 0xD7FB) then some .hangulTail
  else none

def breakClass (char : Char) : BreakClass :=
  let code := char.toNat
  if code < 0x80 then
    if code = 0xD then .carriageReturn
    else if code = 0xA then .lineFeed
    else if code < 0x20 ∨ code = 0x7F then .control
    else .other
  else if code = 0x200D then .joiner
  else if 0x1F1E6 ≤ code ∧ code ≤ 0x1F1FF then .regional
  else if 0x1F3FB ≤ code ∧ code ≤ 0x1F3FF then .emojiModifier
  else if 0x1F466 ≤ code ∧ code ≤ 0x1F469 then .emojiMember
  else if Spans.contain controlSpans code then .control
  else if Spans.contain extenderSpans code then .extender
  else if Spans.contain spacingMarkSpans code then .spacingMark
  else if Spans.contain preposedSpans code then .preposed
  else if Spans.contain emojiBaseSpans code then .emojiBase
  else if Spans.contain emojiThingSpans code then .emojiThing
  else (syllableClass? code).getD .other

/-- What the characters before a place say about it. -/
structure Attachment where
  /-- The class of the last character. -/
  last : BreakClass
  /-- A person or a hand stands before the marks at the end. -/
  afterBase : Bool
  /-- The halves of flags at the end are odd in number. -/
  openFlag : Bool

namespace Attachment

def next (before : Option Attachment) (current : BreakClass) : Attachment where
  last := current
  afterBase := current = .emojiBase || current = .emojiMember ||
    (current = .extender && (before.map afterBase).getD false)
  openFlag := current = .regional && !(before.map openFlag).getD false

/-- Whether a character of the given class belongs to the cluster before it. -/
def holds (before : Attachment) (current : BreakClass) : Bool :=
  match before.last, current with
  | .carriageReturn, .lineFeed => true
  | .carriageReturn, _ | .lineFeed, _ | .control, _ => false
  | _, .carriageReturn | _, .lineFeed | _, .control => false
  | .hangulLead, .hangulLead | .hangulLead, .hangulVowel => true
  | .hangulLead, .hangulOpen | .hangulLead, .hangulClosed => true
  | .hangulOpen, .hangulVowel | .hangulOpen, .hangulTail => true
  | .hangulVowel, .hangulVowel | .hangulVowel, .hangulTail => true
  | .hangulClosed, .hangulTail | .hangulTail, .hangulTail => true
  | _, .extender | _, .joiner | _, .spacingMark => true
  | .preposed, _ => true
  | _, .emojiModifier => before.afterBase
  | .joiner, .emojiThing | .joiner, .emojiMember => true
  | .regional, .regional => before.openFlag
  | _, _ => false

end Attachment

/-- The clusters of the rest of a text: the first list continues the cluster
before, the others are new clusters. -/
def clustersFrom (before : Attachment) : List Char → List Char × List (List Char)
  | [] => ([], [])
  | char :: rest =>
      let current := breakClass char
      let (more, others) := clustersFrom (Attachment.next (some before) current) rest
      if before.holds current then (char :: more, others) else ([], (char :: more) :: others)

def clusters : List Char → List (List Char)
  | [] => []
  | char :: rest =>
      let (more, others) := clustersFrom (Attachment.next none (breakClass char)) rest
      (char :: more) :: others

end Stencil.Text
