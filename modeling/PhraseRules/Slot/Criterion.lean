import PhraseRules.Matcher.Basic
import PhraseRules.Position

/-!
# Criteria

A criterion is what a slot of a pattern asks of a word itself: its form or headword, its tag, its
chunk, and whether a space precedes it.  Form and tag have to hold of the same reading.
-/

namespace PhraseRules

/-- The places in a text that a tag can stand for. -/
inductive Boundary where
  | sentenceStart
  | sentenceEnd
  | paragraphEnd
deriving DecidableEq, Repr

/-- The place that a tag stands for. -/
def Boundary.ofTag? (tag : String) : Option Boundary :=
  if tag = sentenceStartTag then some .sentenceStart
  else if tag = sentenceEndTag then some .sentenceEnd
  else if tag = paragraphEndTag then some .paragraphEnd
  else none

/-- Whether the position is at the place. -/
def Boundary.holds (boundary : Boundary) (position : Position) : Bool :=
  match boundary with
  | .sentenceStart => position.sentenceStart
  | .sentenceEnd => position.sentenceEnd
  | .paragraphEnd => position.paragraphEnd

/-- A condition on the tag of a reading. -/
structure TagCriterion where
  matcher : Matcher
  negated : Bool
  /-- The place that is asked for instead of a tag. -/
  boundary : Option Boundary
deriving DecidableEq, Repr

namespace TagCriterion

/-- The condition that a tag or an expression for tags writes. -/
def compile (tag : String) (isRegex negated : Bool) : Except PatternError TagCriterion := do
  .ok ⟨← Matcher.compile tag isRegex true, negated,
    if isRegex then none else Boundary.ofTag? tag⟩

/-- Whether the reading meets the condition.  A missing tag counts as the unknown one. -/
def holds (criterion : TagCriterion) (reading : Reading) (position : Position) : Bool :=
  let matched := match criterion.boundary with
    | some boundary => boundary.holds position
    | none => criterion.matcher.accepts (reading.tag.getD unknownTag)
  matched != criterion.negated

end TagCriterion

/-- What is asked of a word itself. -/
structure Criterion where
  text : Matcher
  /-- Whether the headword is compared in place of the form. -/
  inflected : Bool
  negated : Bool
  tag : Option TagCriterion
  chunk : Option Matcher
  spaceBefore : Option Bool
deriving DecidableEq, Repr

namespace Criterion

/-- What the text of the criterion is compared with. -/
def comparedText (criterion : Criterion) (reading : Reading) : String :=
  if criterion.inflected then reading.headword.getD reading.text else reading.text

/-- Whether form, tag and space are as asked for in one reading. -/
def holdsOfReading (criterion : Criterion) (reading : Reading) (position : Position) : Bool :=
  let spaceHolds := criterion.spaceBefore.all (· == position.spaceBefore)
  let tagHolds := criterion.tag.all (·.holds reading position)
  let textHolds :=
    if criterion.text.isEmpty then !criterion.negated
    else criterion.text.accepts (criterion.comparedText reading) != criterion.negated
  spaceHolds && textHolds && tagHolds

/-- Whether anything but the chunk is asked for. -/
def isLexical (criterion : Criterion) : Bool :=
  !criterion.text.isEmpty || criterion.negated || criterion.tag.isSome ||
    criterion.spaceBefore.isSome

/-- Whether some reading is as asked for. -/
def holdsOfSomeReading (criterion : Criterion) (position : Position) : Bool :=
  position.readings.any fun reading => criterion.holdsOfReading reading position

/-- Whether the position has the chunk, or else some reading is as asked for. -/
def holds (criterion : Criterion) (position : Position) : Bool :=
  match criterion.chunk with
  | none => criterion.holdsOfSomeReading position
  | some chunk =>
      position.chunks.any chunk.accepts ||
        (criterion.isLexical && criterion.holdsOfSomeReading position)

/-- Whether only the chunk is asked for. -/
def isChunkOnly (criterion : Criterion) : Bool :=
  criterion.chunk.isSome && !criterion.isLexical

end Criterion

end PhraseRules
