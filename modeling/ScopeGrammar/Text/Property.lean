import ScopeGrammar.Text.Category

/-!
# Properties of characters

The letter, case, word and print properties of characters, each a union of general categories and
a short list of further characters. Patterns use the tables of one edition of the character data.
Texts are cased and shown by its next edition, which assigns the characters of `laterTable` as well;
the properties for casing and printing therefore add a few characters of their own. `isWord` is what
a class such as `[\w]` holds, `isPrintable` decides which characters a quoted text shows as they
are.
-/

namespace ScopeGrammar

/-- Alphabetic characters that are neither letters nor letter numbers. -/
def otherAlphabeticTable : RangeTable := .ofText
  "345-345 363-36F 5B0-5BD 5BF-5BF 5C1-5C2 5C4-5C5 5C7-5C7 610-61A 64B-657 659-65F 670-670
    6D6-6DC 6E1-6E4 6E7-6E8 6ED-6ED 711-711 730-73F 7A6-7B0 816-817 81B-823 825-827 829-82C
    897-897 8D4-8DF 8E3-8E9 8F0-903 93A-93B 93E-94C 94E-94F 955-957 962-963 981-983 9BE-9C4
    9C7-9C8 9CB-9CC 9D7-9D7 9E2-9E3 A01-A03 A3E-A42 A47-A48 A4B-A4C A51-A51 A70-A71 A75-A75
    A81-A83 ABE-AC5 AC7-AC9 ACB-ACC AE2-AE3 AFA-AFC B01-B03 B3E-B44 B47-B48 B4B-B4C B56-B57
    B62-B63 B82-B82 BBE-BC2 BC6-BC8 BCA-BCC BD7-BD7 C00-C04 C3E-C44 C46-C48 C4A-C4C C55-C56
    C62-C63 C81-C83 CBE-CC4 CC6-CC8 CCA-CCC CD5-CD6 CE2-CE3 CF3-CF3 D00-D03 D3E-D44 D46-D48
    D4A-D4C D57-D57 D62-D63 D81-D83 DCF-DD4 DD6-DD6 DD8-DDF DF2-DF3 E31-E31 E34-E3A E4D-E4D
    EB1-EB1 EB4-EB9 EBB-EBC ECD-ECD F71-F83 F8D-F97 F99-FBC 102B-1036 1038-1038 103B-103E
    1056-1059 105E-1060 1062-1064 1067-106D 1071-1074 1082-108D 108F-108F 109A-109D 1712-1713
    1732-1733 1752-1753 1772-1773 17B6-17C8 1885-1886 18A9-18A9 1920-192B 1930-1938 1A17-1A1B
    1A55-1A5E 1A61-1A74 1ABF-1AC0 1ACC-1ACE 1B00-1B04 1B35-1B43 1B80-1B82 1BA1-1BA9 1BAC-1BAD
    1BE7-1BF1 1C24-1C36 1DD3-1DF4 24B6-24E9 2DE0-2DFF A674-A67B A69E-A69F A802-A802 A80B-A80B
    A823-A827 A880-A881 A8B4-A8C3 A8C5-A8C5 A8FF-A8FF A926-A92A A947-A952 A980-A983 A9B4-A9BF
    A9E5-A9E5 AA29-AA36 AA43-AA43 AA4C-AA4D AA7B-AA7D AAB0-AAB0 AAB2-AAB4 AAB7-AAB8 AABE-AABE
    AAEB-AAEF AAF5-AAF5 ABE3-ABEA FB1E-FB1E 10376-1037A 10A01-10A03 10A05-10A06 10A0C-10A0F
    10D24-10D27 10D69-10D69 10EAB-10EAC 10EFC-10EFC 11000-11002 11038-11045 11073-11074
    11080-11082 110B0-110B8 110C2-110C2 11100-11102 11127-11132 11145-11146 11180-11182
    111B3-111BF 111CE-111CF 1122C-11234 11237-11237 1123E-1123E 11241-11241 112DF-112E8
    11300-11303 1133E-11344 11347-11348 1134B-1134C 11357-11357 11362-11363 113B8-113C0
    113C2-113C2 113C5-113C5 113C7-113CA 113CC-113CD 11435-11441 11443-11445 114B0-114C1
    115AF-115B5 115B8-115BE 115DC-115DD 11630-1163E 11640-11640 116AB-116B5 1171D-1172A
    1182C-11838 11930-11935 11937-11938 1193B-1193C 11940-11940 11942-11942 119D1-119D7
    119DA-119DF 119E4-119E4 11A01-11A0A 11A35-11A39 11A3B-11A3E 11A51-11A5B 11A8A-11A97
    11C2F-11C36 11C38-11C3E 11C92-11CA7 11CA9-11CB6 11D31-11D36 11D3A-11D3A 11D3C-11D3D
    11D3F-11D41 11D43-11D43 11D47-11D47 11D8A-11D8E 11D90-11D91 11D93-11D96 11EF3-11EF6
    11F00-11F01 11F03-11F03 11F34-11F3A 11F3E-11F40 1611E-1612E 16F4F-16F4F 16F51-16F87
    16F8F-16F92 16FF0-16FF1 1BC9E-1BC9E 1E000-1E006 1E008-1E018 1E01B-1E021 1E023-1E024
    1E026-1E02A 1E08F-1E08F 1E947-1E947 1F130-1F149 1F150-1F169 1F170-1F189"

/-- Uppercase characters that are not uppercase letters. -/
def otherUppercaseTable : RangeTable := .ofText
  "2160-216F 24B6-24CF 1F130-1F149 1F150-1F169 1F170-1F189"

/-- Lowercase characters that are not lowercase letters. -/
def otherLowercaseTable : RangeTable := .ofText
  "AA-AA BA-BA 2B0-2B8 2C0-2C1 2E0-2E4 345-345 37A-37A 10FC-10FC 1D2C-1D6A 1D78-1D78
    1D9B-1DBF 2071-2071 207F-207F 2090-209C 2170-217F 24D0-24E9 2C7C-2C7D A69C-A69D A770-A770
    A7F2-A7F4 A7F8-A7F9 AB5C-AB5F AB69-AB69 10780-10780 10783-10785 10787-107B0 107B2-107BA
    1E030-1E06D"

/-- Extending characters that are neither nonspacing nor enclosing marks. -/
def otherGraphemeExtendTable : RangeTable := .ofText
  "9BE-9BE 9D7-9D7 B3E-B3E B57-B57 BBE-BBE BD7-BD7 CC0-CC0 CC2-CC2 CC7-CC8 CCA-CCB CD5-CD6
    D3E-D3E D57-D57 DCF-DCF DDF-DDF 1715-1715 1734-1734 1B35-1B35 1B3B-1B3B 1B3D-1B3D
    1B43-1B44 1BAA-1BAA 1BF2-1BF3 200C-200C 302E-302F A953-A953 A9C0-A9C0 FF9E-FF9F
    111C0-111C0 11235-11235 1133E-1133E 1134D-1134D 11357-11357 113B8-113B8 113C2-113C2
    113C5-113C5 113C7-113C9 113CF-113CF 114B0-114B0 114BD-114BD 115AF-115AF 116B6-116B6
    11930-11930 1193D-1193D 11F41-11F41 16FF0-16FF1 1D165-1D166 1D16D-1D172 E0020-E007F"

/-- Characters that casing looks past, beyond marks, format characters and modifiers. -/
def otherCaseIgnorableTable : RangeTable := .ofText
  "27-27 2E-2E 3A-3A B7-B7 387-387 55F-55F 5F4-5F4 2018-2019 2024-2024 2027-2027 FE13-FE13
    FE52-FE52 FE55-FE55 FF07-FF07 FF0E-FF0E FF1A-FF1A"

/-- Characters that only the later edition assigns; all of them are visible. -/
def laterTable : RangeTable := .ofText
  "88F-88F C5C-C5C CDC-CDC 1ACF-1ADD 1AE0-1AEB 20C1-20C1 2B96-2B96 A7CE-A7CF A7D2-A7D2
    A7D4-A7D4 A7F1-A7F1 FBC3-FBD2 FD90-FD91 FDC8-FDCE 10940-10959 10EC5-10EC7 10ED0-10ED8
    10EFA-10EFB 11B60-11B67 11DB0-11DDB 11DE0-11DE9 16EA0-16EB8 16EBB-16ED3 16FF2-16FF6
    187F8-187FF 18D09-18D1E 18D80-18DF2 1CCFA-1CCFC 1CEBA-1CED0 1CEE0-1CEF0 1E6C0-1E6DE
    1E6E0-1E6F5 1E6FE-1E6FF 1F6D8-1F6D8 1F777-1F77A 1F8D0-1F8D8 1FA54-1FA57 1FA8A-1FA8A
    1FA8E-1FA8E 1FAC8-1FAC8 1FACD-1FACD 1FAEA-1FAEA 1FAEF-1FAEF 1FBFA-1FBFA 2B73A-2B73F
    2CEA2-2CEAD 323B0-33479"

/-- Characters that have a case in the later edition only. -/
def laterCasedTable : RangeTable := .ofText
  "A7CE-A7CF A7D2-A7D2 A7D4-A7D4 A7F1-A7F1 16EA0-16EB8 16EBB-16ED3"

/-- Characters that casing looks past in the later edition only. -/
def laterCaseIgnorableTable : RangeTable := .ofText
  "1ACF-1ADD 1AE0-1AEB A7F1-A7F1 10EC5-10EC5 10EFA-10EFB 11B60-11B60 11B62-11B64 11B66-11B66
    11DD9-11DD9 16FF2-16FF3 1E6E3-1E6E3 1E6E6-1E6E6 1E6EE-1E6EF 1E6F5-1E6F5 1E6FF-1E6FF"

/-- Characters that extend the one before them in the later edition only. -/
def laterGraphemeExtendTable : RangeTable := .ofText
  "1ACF-1ADD 1AE0-1AEB 10EFA-10EFB 11B60-11B60 11B62-11B64 11B66-11B66 1E6E3-1E6E3
    1E6E6-1E6E6 1E6EE-1E6EF 1E6F5-1E6F5"

/-- Characters that are not shown at all where they have no effect. -/
def ignorableTable : RangeTable := .ofText
  "AD-AD 34F-34F 61C-61C 115F-1160 17B4-17B5 180B-180F 200B-200F 202A-202E 2060-206F
    3164-3164 FE00-FE0F FEFF-FEFF FFA0-FFA0 FFF0-FFF8 1BCA0-1BCA3 1D173-1D17A E0000-E0FFF"

/-- The union of some categories and a table. -/
def categoriesAnd (gs : List Category) (extra : RangeTable) : RangeTable :=
  .unionAll (extra :: gs.map Category.table)

/-- The letters. -/
def letterTable : RangeTable :=
  categoriesAnd
    [.uppercaseLetter, .lowercaseLetter, .titlecaseLetter, .modifierLetter, .otherLetter] .empty

/-- Letters, letter numbers and the marks that stand for letters. -/
def alphabeticTable : RangeTable :=
  .unionAll [letterTable, Category.letterNumberTable, otherAlphabeticTable]

/-- Characters that make up words: alphabetic characters, marks, decimal digits and connectors. -/
def wordTable : RangeTable :=
  categoriesAnd
    [.nonspacingMark, .spacingMark, .enclosingMark, .decimalNumber, .connectorPunctuation]
    alphabeticTable

/-- Characters in upper case. -/
def uppercaseTable : RangeTable :=
  categoriesAnd [.uppercaseLetter] otherUppercaseTable

/-- Characters in lower case. -/
def lowercaseTable : RangeTable :=
  categoriesAnd [.lowercaseLetter] otherLowercaseTable

/-- Characters that have a case: upper, lower or title. -/
def casedTable : RangeTable :=
  .unionAll [uppercaseTable, lowercaseTable, Category.titlecaseLetterTable]

/-- Characters that casing looks past: marks, modifiers, format characters, apostrophes and the
like. -/
def caseIgnorableTable : RangeTable :=
  categoriesAnd [.nonspacingMark, .enclosingMark, .format, .modifierLetter, .modifierSymbol]
    otherCaseIgnorableTable

/-- Characters that extend the one before them. -/
def graphemeExtendTable : RangeTable :=
  categoriesAnd [.nonspacingMark, .enclosingMark] otherGraphemeExtendTable

/-- All punctuation and all symbols. -/
def punctuationTable : RangeTable :=
  categoriesAnd
    [.connectorPunctuation, .dashPunctuation, .openPunctuation, .closePunctuation,
     .initialPunctuation, .finalPunctuation, .otherPunctuation, .mathSymbol, .currencySymbol,
     .modifierSymbol, .otherSymbol] .empty

/-- Everything with a visible shape or an effect on one: all assigned characters but separators,
control characters, format characters, surrogates and private use. -/
def visibleTable : RangeTable :=
  .unionAll ((Category.assigned.filter fun g ↦
    g ∉ [.spaceSeparator, .lineSeparator, .paragraphSeparator,
      .control, .format, .surrogate, .privateUse]).map Category.table)

/-- Whether a character is part of words. -/
def isWord (c : Char) : Bool :=
  wordTable.contains c

/-- The superscript digits and the fractions among the first 256 characters. -/
def latinNumbers : List Nat :=
  [0xB2, 0xB3, 0xB9, 0xBC, 0xBD, 0xBE]

/-- Whether a character is part of words where no class is meant, as at a word boundary: a few old
number signs count as well. -/
def isWordSign (c : Char) : Bool :=
  isWord c || latinNumbers.contains c.toNat

/-- Whether a character is a decimal digit of any script. -/
def isDecimalDigit (c : Char) : Bool :=
  Category.decimalNumberTable.contains c

/-- Whether a character is a hexadecimal digit; these are ASCII only. -/
def isHexDigit (c : Char) : Bool :=
  (hexDigitValue? c).isSome

/-- Whether a character is shown as it is in a quoted text: it is visible, or the plain space. -/
def isPrintable (c : Char) : Bool :=
  c == ' ' ||
    ((visibleTable.contains c || laterTable.contains c) && !ignorableTable.contains c)

/-- Whether a character extends the one before it. -/
def isGraphemeExtend (c : Char) : Bool :=
  graphemeExtendTable.contains c || laterGraphemeExtendTable.contains c

/-- The small letter of the throat sound, which has lost its case in the later edition. -/
def pharyngealLetter : Char := Char.ofNat 0x295

/-- Whether a character has a case. -/
def isCased (c : Char) : Bool :=
  (casedTable.contains c && c != pharyngealLetter) || laterCasedTable.contains c

/-- Whether casing looks past a character. -/
def isCaseIgnorable (c : Char) : Bool :=
  caseIgnorableTable.contains c || laterCaseIgnorableTable.contains c

end ScopeGrammar
