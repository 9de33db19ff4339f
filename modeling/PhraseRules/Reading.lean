/-!
# Readings

A reading is one analysis of a word in a sentence: the word itself, the headword it is listed under
in a dictionary, and the tag of its grammatical class.  An analysis may leave out either of the
last two.
-/

namespace PhraseRules

/-- One analysis of a word. -/
structure Reading where
  text : String
  headword : Option String
  tag : Option String
deriving DecidableEq, Repr, Inhabited

/-- The tag of the empty position that opens a sentence. -/
def sentenceStartTag : String := "SENT_START"

/-- The tag that asks for the last position of a sentence. -/
def sentenceEndTag : String := "SENT_END"

/-- The tag that asks for the last position of a paragraph. -/
def paragraphEndTag : String := "PARA_END"

/-- The tag that asks for a reading without a tag. -/
def unknownTag : String := "UNKNOWN"

namespace Reading

/-- A reading with a headword and a tag. -/
def tagged (text headword tag : String) : Reading :=
  ⟨text, some headword, some tag⟩

/-- The reading of a word that nothing is known about. -/
def unanalysed (text : String) : Reading :=
  ⟨text, none, none⟩

/-- Whether the reading has no tag.  The literal tag `UNKNOWN` is a tag. -/
def isUntagged (reading : Reading) : Bool :=
  reading.tag.isNone

/-- Whether the reading says nothing, so that the first analysis takes its place. -/
def isPlaceholder (reading : Reading) : Bool :=
  reading.tag.isNone && reading.headword.isNone

end Reading

end PhraseRules
