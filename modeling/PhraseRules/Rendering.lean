import PhraseRules.CaseConversion
import PhraseRules.Position
import PhraseRules.Regex.Replace
import PhraseRules.Synthesis

/-!
# Renderings

A rendering says how the word bound to a slot is written in a message or a suggestion: inflected
anew, edited, in another case, or together with the words that follow it.
-/

namespace PhraseRules

/-- How far a rendering reaches beyond the word of its slot. -/
inductive Extent where
  | wordOnly
  /-- The word as it stands and the words behind it. -/
  | following
  /-- As `following`, but the first word is inflected anew. -/
  | all
deriving DecidableEq, Repr

/-- A replacement of all matches of an expression. -/
structure Substitution where
  regex : Regex
  replacement : String
deriving DecidableEq, Repr

/-- How the word bound to a slot is written. -/
structure Rendering where
  /-- The number of the slot, counted from one. -/
  slot : Nat
  /-- The tags of the forms to write. -/
  tag : Option Matcher
  /-- The headword to inflect instead of the word's own. -/
  headword : Option String
  conversion : CaseConversion
  extent : Extent
  /-- The number of the last slot that the extent takes in. -/
  lastSlot : Option Nat
  substitution : Option Substitution
deriving DecidableEq, Repr

namespace Rendering

/-- The rendering that leaves the word of a slot as it is. -/
def ofSlot (slot : Nat) : Rendering :=
  ⟨slot, none, none, .unchanged, .wordOnly, none, none⟩

/-- Asks for forms with a certain tag. -/
def withTag (rendering : Rendering) (tag : String) : Rendering :=
  { rendering with tag := some (.literal tag true) }

/-- Asks for forms whose tags an expression matches. -/
def withTagRegex (rendering : Rendering) (pattern : String) : Except PatternError Rendering := do
  .ok { rendering with tag := some (← Matcher.regex pattern) }

/-- Edits the word before its case changes. -/
def withSubstitution (rendering : Rendering) (pattern replacement : String) :
    Except PatternError Rendering :=
  match Regex.compile pattern with
  | .ok regex => .ok { rendering with substitution := some ⟨regex, replacement⟩ }
  | .error fault => .error (.invalidRegex pattern fault)

/-- Whether the rendering decides about upper and lower case itself. -/
def convertsCase (rendering : Rendering) : Bool :=
  rendering.conversion != .unchanged

/-- The word itself, edited if the rendering asks for it. -/
def surface (rendering : Rendering) (word : String) : String :=
  match rendering.substitution with
  | some substitution => substitution.regex.replaceAll substitution.replacement word
  | none => word

/-- The tags of readings that stand for a place in a sentence and not for a word. -/
def boundaryTags : List String :=
  [sentenceStartTag, sentenceEndTag, paragraphEndTag]

/-- Whether the reading has no tag, or one that stands for a place in a sentence. -/
def isUntaggedOrBoundary (reading : Reading) : Bool :=
  match reading.tag with
  | none => true
  | some tag => boundaryTags.contains tag

/-- The forms that one reading gives.  Without a headword there is nothing to inflect. -/
def formsOfReading (synthesizer : Synthesizer) (target : Matcher) (surface : String)
    (reading : Reading) : Except SynthesisError (List String) :=
  match reading.headword with
  | some headword => synthesizer headword target
  | none => .ok (if isUntaggedOrBoundary reading then [surface] else [])

/-- The forms of the word, before case changes and what follows. -/
def inflected (rendering : Rendering) (synthesizer : Option Synthesizer) (surface : String)
    (readings : List Reading) : Except SynthesisError (List String) :=
  match rendering.tag, synthesizer with
  | none, _ => .ok [rendering.headword.getD surface]
  | some _, none => .ok [surface]
  | some target, some synthesizer =>
      match rendering.headword with
      | some headword => synthesizer headword target
      | none => do
          let forms ← readings.mapM (formsOfReading synthesizer target surface)
          .ok forms.flatten

/-- Words one after another, with a space before those that ask for one. -/
def textOfFollowing (positions : List Position) : String :=
  String.join (positions.map fun position =>
    (if position.spaceBefore then " " else "") ++ position.text)

/--
The texts that the rendering gives for a position, sorted and each once.  `bound` are the readings
that the search bound; none stands for all of them.
-/
def texts (rendering : Rendering) (synthesizer : Option Synthesizer) (language : Language)
    (position : Position) (bound : List Reading) (following : List Position) :
    Except SynthesisError (List String) := do
  let readings := if bound.isEmpty then position.readings else bound
  let surface := rendering.surface position.text
  let heads ← match rendering.extent with
    | .following => .ok [surface]
    | .wordOnly | .all => rendering.inflected synthesizer surface readings
  let tail := match rendering.extent with
    | .wordOnly => ""
    | .following | .all => textOfFollowing following
  .ok (sortDistinct (heads.map fun head =>
    rendering.conversion.apply language position.text head ++ tail))

end Rendering

end PhraseRules
