import PhraseRules.Reading

/-!
# Positions

A position is a word of a sentence together with all its readings, where it stands in the text, and
what is known about its surroundings.  Offsets count characters.  They are numbers here, and what is
reported of them is what machine words hold (`wrapOffset`).
-/

namespace PhraseRules

/-- The number of offsets that a machine word tells apart. -/
def offsetLimit : Nat :=
  UInt64.size

/-- What a machine word holds of an offset. -/
def wrapOffset (offset : Nat) : Nat :=
  offset % offsetLimit

theorem wrapOffset_of_lt {offset : Nat} (fits : offset < offsetLimit) :
    wrapOffset offset = offset :=
  Nat.mod_eq_of_lt fits

/-- A word of a sentence with its readings. -/
structure Position where
  text : String
  readings : List Reading
  start : Nat
  chunks : List String
  sentenceStart : Bool
  sentenceEnd : Bool
  paragraphEnd : Bool
  spaceBefore : Bool
  immune : Bool
  /-- What rules did to the position, oldest first. -/
  history : List String
deriving DecidableEq, Repr, Inhabited

namespace Position

/-- A word that nothing is known about. -/
def ofWord (text : String) (start : Nat) : Position where
  text := text
  readings := [.unanalysed text]
  start := start
  chunks := []
  sentenceStart := false
  sentenceEnd := false
  paragraphEnd := false
  spaceBefore := false
  immune := false
  history := []

/-- The empty position that opens every sentence. -/
def opening : Position :=
  { ofWord "" 0 with
    readings := [⟨"", none, some sentenceStartTag⟩]
    sentenceStart := true }

/-- The offset just behind the word. -/
def stop (position : Position) : Nat :=
  position.start + position.text.length

/--
Adds a reading unless it is already there.  The first reading added takes the place of a placeholder
that stands alone.
-/
def addReading (position : Position) (reading : Reading) : Position :=
  let kept := match position.readings with
    | [only] => if only.isPlaceholder then [] else [only]
    | several => several
  { position with readings := if kept.contains reading then kept else kept ++ [reading] }

/-- Adds several readings in order. -/
def addReadings (position : Position) (readings : List Reading) : Position :=
  readings.foldl addReading position

/-- Adds a chunk tag. -/
def addChunk (position : Position) (chunk : String) : Position :=
  { position with chunks := position.chunks ++ [chunk] }

/-- Protects the position from rules that report errors. -/
def immunize (position : Position) : Position :=
  { position with immune := true }

/-- Adds a line to the history. -/
def note (position : Position) (line : String) : Position :=
  { position with history := position.history ++ [line] }

/-- Whether some reading has this headword. -/
def hasHeadword (position : Position) (headword : String) : Bool :=
  position.readings.any (·.headword == some headword)

end Position

end PhraseRules
