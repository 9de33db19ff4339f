import PhraseRules.Regex.CharSet

/-!
# Properties derived from others

Properties of characters that are defined by categories and case mappings, with few exceptions.  The
exceptions are listed here.
-/

namespace PhraseRules.Regex

open PhraseRules.Unicode

/-- The characters with code points in any of the ranges. -/
def CharSet.ofCodePoints (ranges : List (Nat × Nat)) : CharSet :=
  .ofRanges (ranges.map fun range => (Char.ofNat range.1, Char.ofNat range.2))

/-- The characters of the categories, and those with code points in the ranges. -/
def CharSet.ofCategories (members : List Category) (ranges : List (Nat × Nat)) : CharSet :=
  .union (.having (.categories members)) (.ofCodePoints ranges)

/-- The characters of patterns, which no identifier takes in. -/
def patternChars : CharSet :=
  .union (.listed "patsyn") (.listed "patws")

/-- The characters that begin identifiers. -/
def identifierStart : CharSet :=
  .union
    (.difference
      (.having (.categories
        [.uppercaseLetter, .lowercaseLetter, .titlecaseLetter, .modifierLetter, .otherLetter,
          .letterNumber]))
      patternChars)
    (.ofCodePoints [(0x1885, 0x1886), (0x2118, 0x2118), (0x212E, 0x212E), (0x309B, 0x309C)])

/-- The characters that go on identifiers. -/
def identifierContinue : CharSet :=
  .union identifierStart
    (.union
      (.difference
        (.having (.categories
          [.nonspacingMark, .spacingMark, .decimalNumber, .connectorPunctuation]))
        patternChars)
      (.ofCodePoints [
        (183, 183), (903, 903), (4969, 4977), (6618, 6618), (8204, 8205), (12539, 12539),
        (65381, 65381)]))

/-- The characters that begin identifiers which stay so when they are normalized. -/
def stableIdentifierStart : CharSet :=
  .difference identifierStart
    (.ofCodePoints [
      (890, 890), (3635, 3635), (3763, 3763), (12443, 12444), (64606, 64611), (65018, 65019),
      (65136, 65136), (65138, 65138), (65140, 65140), (65142, 65142), (65144, 65144),
      (65146, 65146),
      (65148, 65148), (65150, 65150), (65438, 65439)])

/-- The characters that go on identifiers which stay so when they are normalized. -/
def stableIdentifierContinue : CharSet :=
  .difference identifierContinue
    (.ofCodePoints [
      (890, 890), (12443, 12444), (64606, 64611), (65018, 65019), (65136, 65136), (65138, 65138),
      (65140, 65140), (65142, 65142), (65144, 65144), (65146, 65146), (65148, 65148),
      (65150, 65150)])

/-- The characters that are written onto the one before them. -/
def graphemeExtend : CharSet :=
  .ofCategories [.nonspacingMark, .enclosingMark] [
    (2494, 2494), (2519, 2519), (2878, 2878), (2903, 2903), (3006, 3006), (3031, 3031),
    (3264, 3264), (3266, 3266), (3271, 3272), (3274, 3275), (3285, 3286), (3390, 3390),
    (3415, 3415), (3535, 3535), (3551, 3551), (5909, 5909), (5940, 5940), (6965, 6965),
    (6971, 6971), (6973, 6973), (6979, 6980), (7082, 7082), (7154, 7155), (8204, 8204),
    (12334, 12335), (43347, 43347), (43456, 43456), (65438, 65439), (70080, 70080), (70197, 70197),
    (70462, 70462), (70477, 70477), (70487, 70487), (70584, 70584), (70594, 70594), (70597, 70597),
    (70599, 70601), (70607, 70607), (70832, 70832), (70845, 70845), (71087, 71087), (71350, 71350),
    (71984, 71984), (71997, 71997), (73537, 73537), (94192, 94193), (119141, 119142),
    (119149, 119154), (917536, 917631)]

/-- The characters that others can be written onto. -/
def graphemeBase : CharSet :=
  .complement
    (.union graphemeExtend
      (.having (.categories
        [.control, .format, .privateUse, .unassigned, .lineSeparator, .paragraphSeparator])))

/-- The characters that a titlecase mapping changes. -/
def changedByTitlecase : CharSet :=
  .symmetricDifference (.having .changedByUppercase)
    (.ofCodePoints [
      (452, 453), (455, 456), (458, 459), (497, 498), (4304, 4346), (4349, 4351), (8072, 8079),
      (8088, 8095), (8104, 8111), (8124, 8124), (8140, 8140), (8188, 8188)])

/-- The characters that a mapping to any case changes. -/
def changedByCase : CharSet :=
  .union (.having .changedByLowercase) (.having .changedByUppercase)

/-- The characters that case folding changes. -/
def changedByFolding : CharSet :=
  .symmetricDifference (.having .changedByLowercase)
    (.ofCodePoints [
      (181, 181), (223, 223), (329, 329), (383, 383), (837, 837), (962, 962), (976, 977),
      (981, 982),
      (1008, 1009), (1013, 1013), (1415, 1415), (5024, 5109), (5112, 5117), (7296, 7304),
      (7834, 7835), (8064, 8071), (8080, 8087), (8096, 8103), (8114, 8116), (8119, 8119),
      (8130, 8132), (8135, 8135), (8178, 8180), (8183, 8183), (43888, 43967), (64256, 64262),
      (64275, 64279)])

/-- The names of the derived properties. -/
def derivedNames : List (List String × CharSet) := [
  (["ids", "idstart"], identifierStart),
  (["idc", "idcontinue"], identifierContinue),
  (["xids", "xidstart"], stableIdentifierStart),
  (["xidc", "xidcontinue"], stableIdentifierContinue),
  (["grext", "graphemeextend"], graphemeExtend),
  (["grbase", "graphemebase"], graphemeBase),
  (["cwl", "changeswhenlowercased"], .having .changedByLowercase),
  (["cwu", "changeswhenuppercased"], .having .changedByUppercase),
  (["cwt", "changeswhentitlecased"], changedByTitlecase),
  (["cwcm", "changeswhencasemapped"], changedByCase),
  (["cwcf", "changeswhencasefolded"], changedByFolding)]

end PhraseRules.Regex
