import PhraseRules.Position

/-!
# Sentences

A sentence is a list of positions.  The first is the empty one that opens it, every position has a
reading, and offsets never decrease.
-/

namespace PhraseRules

/-- An analysed sentence. -/
structure Sentence where
  positions : List Position
deriving DecidableEq, Repr, Inhabited

/-- What can be wrong with a list of positions that is to become a sentence. -/
inductive SentenceError where
  | empty
  | missingSentenceStart
  | noReadings (index : Nat)
  | unorderedOffsets (index : Nat)
deriving DecidableEq, Repr

/-- The wording of a fault in a sentence. -/
def SentenceError.message : SentenceError → String
  | .empty => "la frase no tiene posiciones"
  | .missingSentenceStart => "la primera posición debe ser el inicio de frase"
  | .noReadings index => s!"la posición {index} no tiene lecturas"
  | .unorderedOffsets index => s!"desplazamientos desordenados en la posición {index}"

namespace Sentence

/-- The first fault in positions that are counted from `index` and may not start before `least`. -/
def fault? (index least : Nat) : List Position → Option SentenceError
  | [] => none
  | position :: later =>
      if position.readings.isEmpty then some (.noReadings index)
      else if position.start < least then some (.unorderedOffsets index)
      else fault? (index + 1) position.start later

/-- Makes a sentence of positions that have no fault. -/
def ofPositions (positions : List Position) : Except SentenceError Sentence :=
  match positions with
  | [] => .error .empty
  | first :: _ =>
      if first.sentenceStart then
        match fault? 0 0 positions with
        | some fault => .error fault
        | none => .ok ⟨positions⟩
      else
        .error .missingSentenceStart

/-- Positions for words that stand `offset` characters into a sentence, one space apart. -/
def positionsOfWords (offset : Nat) (spaceBefore : Bool) : List String → List Position
  | [] => []
  | [word] => [{ Position.ofWord word offset with spaceBefore := spaceBefore, sentenceEnd := true }]
  | word :: later =>
      { Position.ofWord word offset with spaceBefore := spaceBefore } ::
        positionsOfWords (offset + word.length + 1) true later

/-- The sentence of words that stand one space apart and have no analysis. -/
def ofWords (words : List String) : Sentence :=
  ⟨Position.opening :: positionsOfWords 0 false words⟩

/-- The number of positions, with the one that opens the sentence. -/
def length (sentence : Sentence) : Nat :=
  sentence.positions.length

/-- Whether the sentence has no words. -/
def isEmpty (sentence : Sentence) : Bool :=
  sentence.length ≤ 1

/-- The text of words behind the text `written` so far. -/
def textOfPositions (written : String) : List Position → String
  | [] => written
  | position :: later =>
      let space := if position.spaceBefore && !written.isEmpty then " " else ""
      textOfPositions (written ++ space ++ position.text) later

/-- The words of the sentence, with a space before those that ask for one. -/
def text (sentence : Sentence) : String :=
  textOfPositions "" (sentence.positions.drop 1)

end Sentence

end PhraseRules
