import PhraseRules.Unicode.Ranges

/-!
# White space

The property `White_Space`, which separates words, ends lines and is trimmed from texts.
-/

namespace PhraseRules.Unicode

/-- The code points that are white space. -/
def whiteSpaceBlocks : List RangeBlock := [
  ⟨12288, [
    (9, 13), (32, 32), (133, 133), (160, 160), (5760, 5760), (8192, 8202), (8232, 8233),
    (8239, 8239), (8287, 8287), (12288, 12288)]⟩]

/-- Whether the character is white space. -/
def isWhiteSpace (c : Char) : Bool :=
  inBlocks c.toNat whiteSpaceBlocks

end PhraseRules.Unicode
