import DocQuery.Text.BreakTable
import DocQuery.Text.Category
import DocQuery.Text.PropertyTable

/-!
# Properties of characters

A property holds of a character or does not. Some are given by a table or a few ranges, the others
follow from those and from the general category.

* `Property`, `Property.names`, `Property.members` — the properties, what they are called and the
  characters that have them.
* `isAlphabetic`, `isWordChar`, `extendsGrapheme`, `isPrintable` — for single characters.

Main statement: `Property.mem_all`.
-/

set_option autoImplicit false

namespace DocQuery

/-- The properties. -/
inductive Property
  | asciiHexDigit | alphabetic | bidiControl | bidiMirrored | caseIgnorable | cased
  | changesWhenCasefolded | changesWhenCasemapped | changesWhenLowercased | changesWhenTitlecased
  | changesWhenUppercased | dash | defaultIgnorableCodePoint | deprecated | diacritic | emoji
  | emojiComponent | emojiModifier | emojiModifierBase | emojiPresentation | extendedPictographic
  | extender | graphemeBase | graphemeExtend | graphemeLink | hexDigit | hyphen
  | idsBinaryOperator | idsTrinaryOperator | idsUnaryOperator | idCompatMathContinue
  | idCompatMathStart | idContinue | idStart | ideographic | joinControl | logicalOrderException
  | lowercase | math | modifierCombiningMark | noncharacterCodePoint | otherAlphabetic
  | otherDefaultIgnorableCodePoint | otherGraphemeExtend | otherIdContinue | otherIdStart
  | otherLowercase | otherMath | otherUppercase | patternSyntax | patternWhiteSpace
  | prependedConcatenationMark | quotationMark | radical | regionalIndicator | sentenceTerminal
  | softDotted | terminalPunctuation | unifiedIdeograph | uppercase | variationSelector
  | whiteSpace | xidContinue | xidStart
  deriving DecidableEq, Repr

namespace CharSet

/-- The characters with the mark `Y` in a table. -/
def ofTable (lines : List String) : CharSet := ofRuns (MarkRun.ofLines lines) ["Y"]

def letters : CharSet := ofCategories [.lu, .ll, .lt, .lm, .lo]

def otherAlphabetic : CharSet := ofTable otherAlphabeticRuns

/-- Letters, letter numbers and other alphabetic characters. -/
def alphabetic : CharSet := (letters.union (ofCategories [.nl])).union otherAlphabetic

def otherLowercase : CharSet :=
  ⟨[(0xaa, 0xaa), (0xba, 0xba), (0x2b0, 0x2b8), (0x2c0, 0x2c1), (0x2e0, 0x2e4), (0x345, 0x345),
    (0x37a, 0x37a), (0x10fc, 0x10fc), (0x1d2c, 0x1d6a), (0x1d78, 0x1d78), (0x1d9b, 0x1dbf),
    (0x2071, 0x2071), (0x207f, 0x207f), (0x2090, 0x209c), (0x2170, 0x217f), (0x24d0, 0x24e9),
    (0x2c7c, 0x2c7d), (0xa69c, 0xa69d), (0xa770, 0xa770), (0xa7f2, 0xa7f4), (0xa7f8, 0xa7f9),
    (0xab5c, 0xab5f), (0xab69, 0xab69), (0x10780, 0x10780), (0x10783, 0x10785),
    (0x10787, 0x107b0), (0x107b2, 0x107ba), (0x1e030, 0x1e06d)]⟩

def otherUppercase : CharSet :=
  ⟨[(0x2160, 0x216f), (0x24b6, 0x24cf), (0x1f130, 0x1f149), (0x1f150, 0x1f169),
    (0x1f170, 0x1f189)]⟩

def lowercase : CharSet := (ofCategories [.ll]).union otherLowercase

def uppercase : CharSet := (ofCategories [.lu]).union otherUppercase

/-- White space. -/
def blanks : CharSet :=
  ⟨[(0x9, 0xd), (0x20, 0x20), (0x85, 0x85), (0xa0, 0xa0), (0x1680, 0x1680), (0x2000, 0x200a),
    (0x2028, 0x2029), (0x202f, 0x202f), (0x205f, 0x205f), (0x3000, 0x3000)]⟩

def variationSelector : CharSet :=
  ⟨[(0x180b, 0x180d), (0x180f, 0x180f), (0xfe00, 0xfe0f), (0xe0100, 0xe01ef)]⟩

def prependedConcatenationMark : CharSet :=
  ⟨[(0x600, 0x605), (0x6dd, 0x6dd), (0x70f, 0x70f), (0x890, 0x891), (0x8e2, 0x8e2),
    (0x110bd, 0x110bd), (0x110cd, 0x110cd)]⟩

def otherDefaultIgnorable : CharSet :=
  ⟨[(0x34f, 0x34f), (0x115f, 0x1160), (0x17b4, 0x17b5), (0x2065, 0x2065), (0x3164, 0x3164),
    (0xffa0, 0xffa0), (0xfff0, 0xfff8), (0xe0000, 0xe0000), (0xe0002, 0xe001f),
    (0xe0080, 0xe00ff), (0xe01f0, 0xe0fff)]⟩

/-- Format characters and others that stay invisible where they are not supported. Annotations and
marks that enclose or join hieroglyphs or numbers are visible. -/
def defaultIgnorable : CharSet :=
  ((otherDefaultIgnorable.union (ofCategories [.cf])).union variationSelector).diff
    ((blanks.union prependedConcatenationMark).union ⟨[(0xfff9, 0xfffb), (0x13430, 0x13440)]⟩)

/-- Characters that attach to the one in front. -/
def graphemeExtend : CharSet :=
  (ofCategories [.me, .mn]).union (ofTable otherGraphemeExtendRuns)

/-- Visible characters that may stand at the front of a grapheme. -/
def graphemeBase : CharSet :=
  ((ofCategories [.cc, .cf, .cs, .co, .cn, .zl, .zp]).union graphemeExtend).complement

def patternSyntax : CharSet :=
  ⟨[(0x21, 0x2f), (0x3a, 0x40), (0x5b, 0x5e), (0x60, 0x60), (0x7b, 0x7e), (0xa1, 0xa7),
    (0xa9, 0xa9), (0xab, 0xac), (0xae, 0xae), (0xb0, 0xb1), (0xb6, 0xb6), (0xbb, 0xbb),
    (0xbf, 0xbf), (0xd7, 0xd7), (0xf7, 0xf7), (0x2010, 0x2027), (0x2030, 0x203e),
    (0x2041, 0x2053), (0x2055, 0x205e), (0x2190, 0x245f), (0x2500, 0x2775), (0x2794, 0x2bff),
    (0x2e00, 0x2e7f), (0x3001, 0x3003), (0x3008, 0x3020), (0x3030, 0x3030), (0xfd3e, 0xfd3f),
    (0xfe45, 0xfe46)]⟩

def patternWhiteSpace : CharSet :=
  ⟨[(0x9, 0xd), (0x20, 0x20), (0x85, 0x85), (0x200e, 0x200f), (0x2028, 0x2029)]⟩

def otherIdStart : CharSet :=
  ⟨[(0x1885, 0x1886), (0x2118, 0x2118), (0x212e, 0x212e), (0x309b, 0x309c)]⟩

def otherIdContinue : CharSet :=
  ⟨[(0xb7, 0xb7), (0x387, 0x387), (0x1369, 0x1371), (0x19da, 0x19da), (0x200c, 0x200d),
    (0x30fb, 0x30fb), (0xff65, 0xff65)]⟩

/-- Characters that an identifier may start with. -/
def idStart : CharSet :=
  ((letters.union (ofCategories [.nl])).union otherIdStart).diff
    (patternSyntax.union patternWhiteSpace)

/-- Characters that may stand in an identifier. -/
def idContinue : CharSet :=
  ((idStart.union (ofCategories [.mn, .mc, .nd, .pc])).union otherIdContinue).diff
    (patternSyntax.union patternWhiteSpace)

/-- Letters whose compatible form is no identifier. -/
def compatibilityLetters : CharSet :=
  ⟨[(0x37a, 0x37a), (0x309b, 0x309c), (0xfc5e, 0xfc63), (0xfdfa, 0xfdfb), (0xfe70, 0xfe70),
    (0xfe72, 0xfe72), (0xfe74, 0xfe74), (0xfe76, 0xfe76), (0xfe78, 0xfe78), (0xfe7a, 0xfe7a),
    (0xfe7c, 0xfe7c), (0xfe7e, 0xfe7e)]⟩

/-- Letters whose compatible form starts no identifier. -/
def compatibilityStarts : CharSet :=
  compatibilityLetters.union
    ⟨[(0xe33, 0xe33), (0xeb3, 0xeb3), (0xff9e, 0xff9f)]⟩

def digits : CharSet := ofCategories [.nd]

/-- Alphabetic characters, marks, decimal digits, connectors and the two joiners. -/
def wordChars : CharSet :=
  (alphabetic.union (ofCategories [.mn, .mc, .me, .nd, .pc])).union (range 0x200c 0x200d)

end CharSet

namespace Property

def all : List Property :=
  [asciiHexDigit, alphabetic, bidiControl, bidiMirrored, caseIgnorable, cased,
    changesWhenCasefolded, changesWhenCasemapped, changesWhenLowercased, changesWhenTitlecased,
    changesWhenUppercased, dash, defaultIgnorableCodePoint, deprecated, diacritic, emoji,
    emojiComponent, emojiModifier, emojiModifierBase, emojiPresentation, extendedPictographic,
    extender, graphemeBase, graphemeExtend, graphemeLink, hexDigit, hyphen, idsBinaryOperator,
    idsTrinaryOperator, idsUnaryOperator, idCompatMathContinue, idCompatMathStart, idContinue,
    idStart, ideographic, joinControl, logicalOrderException, lowercase, math,
    modifierCombiningMark, noncharacterCodePoint, otherAlphabetic, otherDefaultIgnorableCodePoint,
    otherGraphemeExtend, otherIdContinue, otherIdStart, otherLowercase, otherMath, otherUppercase,
    patternSyntax, patternWhiteSpace, prependedConcatenationMark, quotationMark, radical,
    regionalIndicator, sentenceTerminal, softDotted, terminalPunctuation, unifiedIdeograph,
    uppercase, variationSelector, whiteSpace, xidContinue, xidStart]

/-- The names of a property, the long one first. -/
def names : Property → List String
  | asciiHexDigit => ["ASCII_Hex_Digit", "AHex"]
  | alphabetic => ["Alphabetic", "Alpha"]
  | bidiControl => ["Bidi_Control", "Bidi_C"]
  | bidiMirrored => ["Bidi_Mirrored", "Bidi_M"]
  | caseIgnorable => ["Case_Ignorable", "CI"]
  | cased => ["Cased"]
  | changesWhenCasefolded => ["Changes_When_Casefolded", "CWCF"]
  | changesWhenCasemapped => ["Changes_When_Casemapped", "CWCM"]
  | changesWhenLowercased => ["Changes_When_Lowercased", "CWL"]
  | changesWhenTitlecased => ["Changes_When_Titlecased", "CWT"]
  | changesWhenUppercased => ["Changes_When_Uppercased", "CWU"]
  | dash => ["Dash"]
  | defaultIgnorableCodePoint => ["Default_Ignorable_Code_Point", "DI"]
  | deprecated => ["Deprecated", "Dep"]
  | diacritic => ["Diacritic", "Dia"]
  | emoji => ["Emoji"]
  | emojiComponent => ["Emoji_Component", "EComp"]
  | emojiModifier => ["Emoji_Modifier", "EMod"]
  | emojiModifierBase => ["Emoji_Modifier_Base", "EBase"]
  | emojiPresentation => ["Emoji_Presentation", "EPres"]
  | extendedPictographic => ["Extended_Pictographic", "ExtPict"]
  | extender => ["Extender", "Ext"]
  | graphemeBase => ["Grapheme_Base", "Gr_Base"]
  | graphemeExtend => ["Grapheme_Extend", "Gr_Ext"]
  | graphemeLink => ["Grapheme_Link", "Gr_Link"]
  | hexDigit => ["Hex_Digit", "Hex"]
  | hyphen => ["Hyphen"]
  | idsBinaryOperator => ["IDS_Binary_Operator", "IDSB"]
  | idsTrinaryOperator => ["IDS_Trinary_Operator", "IDST"]
  | idsUnaryOperator => ["IDS_Unary_Operator", "IDSU"]
  | idCompatMathContinue => ["ID_Compat_Math_Continue"]
  | idCompatMathStart => ["ID_Compat_Math_Start"]
  | idContinue => ["ID_Continue", "IDC"]
  | idStart => ["ID_Start", "IDS"]
  | ideographic => ["Ideographic", "Ideo"]
  | joinControl => ["Join_Control", "Join_C"]
  | logicalOrderException => ["Logical_Order_Exception", "LOE"]
  | lowercase => ["Lowercase", "Lower"]
  | math => ["Math"]
  | modifierCombiningMark => ["Modifier_Combining_Mark", "MCM"]
  | noncharacterCodePoint => ["Noncharacter_Code_Point", "NChar"]
  | otherAlphabetic => ["Other_Alphabetic", "OAlpha"]
  | otherDefaultIgnorableCodePoint => ["Other_Default_Ignorable_Code_Point", "ODI"]
  | otherGraphemeExtend => ["Other_Grapheme_Extend", "OGr_Ext"]
  | otherIdContinue => ["Other_ID_Continue", "OIDC"]
  | otherIdStart => ["Other_ID_Start", "OIDS"]
  | otherLowercase => ["Other_Lowercase", "OLower"]
  | otherMath => ["Other_Math", "OMath"]
  | otherUppercase => ["Other_Uppercase", "OUpper"]
  | patternSyntax => ["Pattern_Syntax", "Pat_Syn"]
  | patternWhiteSpace => ["Pattern_White_Space", "Pat_WS"]
  | prependedConcatenationMark => ["Prepended_Concatenation_Mark", "PCM"]
  | quotationMark => ["Quotation_Mark", "QMark"]
  | radical => ["Radical"]
  | regionalIndicator => ["Regional_Indicator", "RI"]
  | sentenceTerminal => ["Sentence_Terminal", "STerm"]
  | softDotted => ["Soft_Dotted", "SD"]
  | terminalPunctuation => ["Terminal_Punctuation", "Term"]
  | unifiedIdeograph => ["Unified_Ideograph", "UIdeo"]
  | uppercase => ["Uppercase", "Upper"]
  | variationSelector => ["Variation_Selector", "VS"]
  | whiteSpace => ["White_Space", "WSpace", "space"]
  | xidContinue => ["XID_Continue", "XIDC"]
  | xidStart => ["XID_Start", "XIDS"]

/-- The characters with a property. -/
def members : Property → CharSet
  | asciiHexDigit => ⟨[(0x30, 0x39), (0x41, 0x46), (0x61, 0x66)]⟩
  | alphabetic => .alphabetic
  | bidiControl => ⟨[(0x61c, 0x61c), (0x200e, 0x200f), (0x202a, 0x202e), (0x2066, 0x2069)]⟩
  | bidiMirrored => .ofTable bidiMirroredRuns
  | caseIgnorable =>
    (CharSet.ofCategories [.mn, .me, .cf, .lm, .sk]).union
      (.ofRuns (MarkRun.ofLines wordBreakRuns) ["Ml", "Mb", "Sq"])
  | cased => (CharSet.lowercase.union .uppercase).union (.ofCategories [.lt])
  | changesWhenCasefolded => .ofTable changesWhenCasefoldedRuns
  | changesWhenCasemapped =>
    ((CharSet.ofTable changesWhenLowercasedRuns).union
      (.ofTable changesWhenUppercasedRuns)).union (.ofTable changesWhenTitlecasedRuns)
  | changesWhenLowercased => .ofTable changesWhenLowercasedRuns
  | changesWhenTitlecased => .ofTable changesWhenTitlecasedRuns
  | changesWhenUppercased => .ofTable changesWhenUppercasedRuns
  | dash =>
    ⟨[(0x2d, 0x2d), (0x58a, 0x58a), (0x5be, 0x5be), (0x1400, 0x1400), (0x1806, 0x1806),
      (0x2010, 0x2015), (0x2053, 0x2053), (0x207b, 0x207b), (0x208b, 0x208b), (0x2212, 0x2212),
      (0x2e17, 0x2e17), (0x2e1a, 0x2e1a), (0x2e3a, 0x2e3b), (0x2e40, 0x2e40), (0x2e5d, 0x2e5d),
      (0x301c, 0x301c), (0x3030, 0x3030), (0x30a0, 0x30a0), (0xfe31, 0xfe32), (0xfe58, 0xfe58),
      (0xfe63, 0xfe63), (0xff0d, 0xff0d), (0x10d6e, 0x10d6e), (0x10ead, 0x10ead)]⟩
  | defaultIgnorableCodePoint => .defaultIgnorable
  | deprecated =>
    ⟨[(0x149, 0x149), (0x673, 0x673), (0xf77, 0xf77), (0xf79, 0xf79), (0x17a3, 0x17a4),
      (0x206a, 0x206f), (0x2329, 0x232a), (0xe0001, 0xe0001)]⟩
  | diacritic => .ofTable diacriticRuns
  | emoji => .ofTable emojiRuns
  | emojiComponent =>
    ⟨[(0x23, 0x23), (0x2a, 0x2a), (0x30, 0x39), (0x200d, 0x200d), (0x20e3, 0x20e3),
      (0xfe0f, 0xfe0f), (0x1f1e6, 0x1f1ff), (0x1f3fb, 0x1f3ff), (0x1f9b0, 0x1f9b3),
      (0xe0020, 0xe007f)]⟩
  | emojiModifier => ⟨[(0x1f3fb, 0x1f3ff)]⟩
  | emojiModifierBase => .ofTable emojiModifierBaseRuns
  | emojiPresentation => .ofTable emojiPresentationRuns
  | extendedPictographic => .ofTable extendedPictographicRuns
  | extender => .ofTable extenderRuns
  | graphemeBase => .graphemeBase
  | graphemeExtend => .graphemeExtend
  | graphemeLink => .ofTable graphemeLinkRuns
  | hexDigit =>
    ⟨[(0x30, 0x39), (0x41, 0x46), (0x61, 0x66), (0xff10, 0xff19), (0xff21, 0xff26),
      (0xff41, 0xff46)]⟩
  | hyphen =>
    ⟨[(0x2d, 0x2d), (0xad, 0xad), (0x58a, 0x58a), (0x1806, 0x1806), (0x2010, 0x2011),
      (0x2e17, 0x2e17), (0x30fb, 0x30fb), (0xfe63, 0xfe63), (0xff0d, 0xff0d), (0xff65, 0xff65)]⟩
  | idsBinaryOperator => ⟨[(0x2ff0, 0x2ff1), (0x2ff4, 0x2ffd), (0x31ef, 0x31ef)]⟩
  | idsTrinaryOperator => ⟨[(0x2ff2, 0x2ff3)]⟩
  | idsUnaryOperator => ⟨[(0x2ffe, 0x2fff)]⟩
  | idCompatMathContinue =>
    ⟨[(0xb2, 0xb3), (0xb9, 0xb9), (0x2070, 0x2070), (0x2074, 0x207e), (0x2080, 0x208e),
      (0x2202, 0x2202), (0x2207, 0x2207), (0x221e, 0x221e), (0x1d6c1, 0x1d6c1),
      (0x1d6db, 0x1d6db), (0x1d6fb, 0x1d6fb), (0x1d715, 0x1d715), (0x1d735, 0x1d735),
      (0x1d74f, 0x1d74f), (0x1d76f, 0x1d76f), (0x1d789, 0x1d789), (0x1d7a9, 0x1d7a9),
      (0x1d7c3, 0x1d7c3)]⟩
  | idCompatMathStart =>
    ⟨[(0x2202, 0x2202), (0x2207, 0x2207), (0x221e, 0x221e), (0x1d6c1, 0x1d6c1),
      (0x1d6db, 0x1d6db), (0x1d6fb, 0x1d6fb), (0x1d715, 0x1d715), (0x1d735, 0x1d735),
      (0x1d74f, 0x1d74f), (0x1d76f, 0x1d76f), (0x1d789, 0x1d789), (0x1d7a9, 0x1d7a9),
      (0x1d7c3, 0x1d7c3)]⟩
  | idContinue => .idContinue
  | idStart => .idStart
  | ideographic =>
    ⟨[(0x3006, 0x3007), (0x3021, 0x3029), (0x3038, 0x303a), (0x3400, 0x4dbf), (0x4e00, 0x9fff),
      (0xf900, 0xfa6d), (0xfa70, 0xfad9), (0x16fe4, 0x16fe4), (0x17000, 0x187f7),
      (0x18800, 0x18cd5), (0x18cff, 0x18d08), (0x1b170, 0x1b2fb), (0x20000, 0x2a6df),
      (0x2a700, 0x2b739), (0x2b740, 0x2b81d), (0x2b820, 0x2cea1), (0x2ceb0, 0x2ebe0),
      (0x2ebf0, 0x2ee5d), (0x2f800, 0x2fa1d), (0x30000, 0x3134a), (0x31350, 0x323af)]⟩
  | joinControl => ⟨[(0x200c, 0x200d)]⟩
  | logicalOrderException =>
    ⟨[(0xe40, 0xe44), (0xec0, 0xec4), (0x19b5, 0x19b7), (0x19ba, 0x19ba), (0xaab5, 0xaab6),
      (0xaab9, 0xaab9), (0xaabb, 0xaabc)]⟩
  | lowercase => .lowercase
  | math => (CharSet.ofCategories [.sm]).union (.ofTable otherMathRuns)
  | modifierCombiningMark =>
    ⟨[(0x654, 0x655), (0x658, 0x658), (0x6dc, 0x6dc), (0x6e3, 0x6e3), (0x6e7, 0x6e8),
      (0x8ca, 0x8cb), (0x8cd, 0x8cf), (0x8d3, 0x8d3), (0x8f3, 0x8f3)]⟩
  | noncharacterCodePoint =>
    ⟨[(0xfdd0, 0xfdef), (0xfffe, 0xffff), (0x1fffe, 0x1ffff), (0x2fffe, 0x2ffff),
      (0x3fffe, 0x3ffff), (0x4fffe, 0x4ffff), (0x5fffe, 0x5ffff), (0x6fffe, 0x6ffff),
      (0x7fffe, 0x7ffff), (0x8fffe, 0x8ffff), (0x9fffe, 0x9ffff), (0xafffe, 0xaffff),
      (0xbfffe, 0xbffff), (0xcfffe, 0xcffff), (0xdfffe, 0xdffff), (0xefffe, 0xeffff),
      (0xffffe, 0xfffff), (0x10fffe, 0x10ffff)]⟩
  | otherAlphabetic => .otherAlphabetic
  | otherDefaultIgnorableCodePoint => .otherDefaultIgnorable
  | otherGraphemeExtend => .ofTable otherGraphemeExtendRuns
  | otherIdContinue => .otherIdContinue
  | otherIdStart => .otherIdStart
  | otherLowercase => .otherLowercase
  | otherMath => .ofTable otherMathRuns
  | otherUppercase => .otherUppercase
  | patternSyntax => .patternSyntax
  | patternWhiteSpace => .patternWhiteSpace
  | prependedConcatenationMark => .prependedConcatenationMark
  | quotationMark =>
    ⟨[(0x22, 0x22), (0x27, 0x27), (0xab, 0xab), (0xbb, 0xbb), (0x2018, 0x201f), (0x2039, 0x203a),
      (0x2e42, 0x2e42), (0x300c, 0x300f), (0x301d, 0x301f), (0xfe41, 0xfe44), (0xff02, 0xff02),
      (0xff07, 0xff07), (0xff62, 0xff63)]⟩
  | radical => ⟨[(0x2e80, 0x2e99), (0x2e9b, 0x2ef3), (0x2f00, 0x2fd5)]⟩
  | regionalIndicator => ⟨[(0x1f1e6, 0x1f1ff)]⟩
  | sentenceTerminal => .ofTable sentenceTerminalRuns
  | softDotted => .ofTable softDottedRuns
  | terminalPunctuation => .ofTable terminalPunctuationRuns
  | unifiedIdeograph =>
    ⟨[(0x3400, 0x4dbf), (0x4e00, 0x9fff), (0xfa0e, 0xfa0f), (0xfa11, 0xfa11), (0xfa13, 0xfa14),
      (0xfa1f, 0xfa1f), (0xfa21, 0xfa21), (0xfa23, 0xfa24), (0xfa27, 0xfa29), (0x20000, 0x2a6df),
      (0x2a700, 0x2b739), (0x2b740, 0x2b81d), (0x2b820, 0x2cea1), (0x2ceb0, 0x2ebe0),
      (0x2ebf0, 0x2ee5d), (0x30000, 0x3134a), (0x31350, 0x323af)]⟩
  | uppercase => .uppercase
  | variationSelector => .variationSelector
  | whiteSpace => .blanks
  | xidContinue => CharSet.idContinue.diff .compatibilityLetters
  | xidStart => CharSet.idStart.diff .compatibilityStarts

theorem mem_all (p : Property) : p ∈ all := by cases p <;> decide

end Property

/-- Letters, letter numbers and other alphabetic characters. -/
def isAlphabetic (c : Char) : Bool := CharSet.alphabetic.contains c

/-- Alphabetic characters and numbers of every kind. -/
def isAlphanumeric (c : Char) : Bool :=
  isAlphabetic c || [Category.nd, .nl, .no].contains (Category.of c)

def isWordChar (c : Char) : Bool := CharSet.wordChars.contains c

/-- Marks that attach to the character in front of them. -/
def extendsGrapheme (c : Char) : Bool := CharSet.graphemeExtend.contains c

/-- Assigned, visible characters and the plain space. -/
def isPrintable (c : Char) : Bool :=
  c == ' ' || !(List.contains [Category.zs, .zl, .zp, .cc, .cf, .cs, .co, .cn] (Category.of c))

end DocQuery
