import PhraseRules.Sentence.Basic
import PhraseRules.Text.Token

/-!
# The sentences of a text

A sentence ends behind the last of a run of final marks, before a break between paragraphs, and at
the end of the text.  Its offsets count from its first token.
-/

namespace PhraseRules.Sentence

open PhraseRules.Text

/-- A token of a sentence, and whether white space precedes it. -/
structure SpacedToken where
  token : Token
  spaceBefore : Bool

/-- The tokens of a sentence, and whether a paragraph ends with it. -/
structure Stretch where
  tokens : List SpacedToken
  paragraphEnd : Bool

/--
Divides tokens into the stretches of sentences.  `pending` is the sentence so far, `spaceBefore`
whether white space came just before.
-/
def stretchesFrom (pending : List SpacedToken) (spaceBefore : Bool) : List Token → List Stretch
  | [] => if pending.isEmpty then [] else [⟨pending, true⟩]
  | token :: later =>
      if token.isBlank then
        if token.isParagraphBreak && !pending.isEmpty then
          ⟨pending, true⟩ :: stretchesFrom [] true later
        else
          stretchesFrom pending true later
      else
        let sentence := pending ++ [⟨token, spaceBefore⟩]
        if token.isSentenceFinal && !later.head?.any Token.isSentenceFinal then
          ⟨sentence, later.all Token.isBlank || later.head?.any Token.isParagraphBreak⟩ ::
            stretchesFrom [] false later
        else
          stretchesFrom sentence false later

/-- The offset of the first token of a stretch. -/
def Stretch.offset (stretch : Stretch) : Nat :=
  (stretch.tokens.head?.map (·.token.start)).getD 0

/-- The position of a token of a sentence that begins at `offset`. -/
def positionOfToken (offset : Nat) (spaceBefore : Bool) (token : Token) : Position :=
  { Position.ofWord token.text (token.start - offset) with spaceBefore := spaceBefore }

/-- The positions of a stretch.  The first has no space before it, whatever precedes the sentence.
-/
def Stretch.words (stretch : Stretch) : List Position :=
  match stretch.tokens with
  | [] => []
  | first :: later =>
      positionOfToken stretch.offset false first.token ::
        later.map fun spaced => positionOfToken stretch.offset spaced.spaceBefore spaced.token

/-- Marks the last position as the end of a sentence. -/
def markEnd (paragraphEnd : Bool) : List Position → List Position
  | [] => []
  | [last] => [{ last with sentenceEnd := true, paragraphEnd := paragraphEnd }]
  | position :: later => position :: markEnd paragraphEnd later

/-- The sentence of a stretch. -/
def ofStretch (stretch : Stretch) : Except SentenceError Sentence :=
  ofPositions (markEnd stretch.paragraphEnd (Position.opening :: stretch.words))

/-- The sentences of a text, each with the offset of its first token. -/
def split (text : String) : Except SentenceError (List (Nat × Sentence)) :=
  (stretchesFrom [] false (tokenize text)).mapM fun stretch => do
    return (stretch.offset, ← ofStretch stretch)

end PhraseRules.Sentence
