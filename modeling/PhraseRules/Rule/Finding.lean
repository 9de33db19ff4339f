import PhraseRules.Rule.Basic
import PhraseRules.Rule.Marked
import PhraseRules.Search.Scan

/-!
# Findings

A finding reports an occurrence of the pattern of a rule: the words that are wrong, the message, and
the corrections.  Occurrences that overlap one of an antipattern are not reported.
-/

namespace PhraseRules

open PhraseRules.Text

/-- A reported occurrence.  Offsets count characters. -/
structure Finding where
  rule : String
  /-- The offsets of the marked words. -/
  start : Nat
  stop : Nat
  /-- The positions of the marked words in their sentence. -/
  firstWord : Nat
  lastWord : Nat
  /-- The offsets of the whole occurrence. -/
  patternStart : Nat
  patternStop : Nat
  message : String
  shortMessage : String
  suggestions : List String
deriving DecidableEq, Repr

namespace Finding

/-- The finding in a text in which its sentence begins at an offset. -/
def shift (finding : Finding) (offset : Nat) : Finding :=
  { finding with
    start := finding.start + offset
    stop := finding.stop + offset
    patternStart := finding.patternStart + offset
    patternStop := finding.patternStop + offset }

/-- The finding as it is reported, with its offsets in machine words.  Where words begin is given;
where they end is a sum, which need not fit. -/
def wrapped (finding : Finding) : Finding :=
  { finding with
    stop := wrapOffset finding.stop
    patternStop := wrapOffset finding.patternStop }

/-- Whether the marked words of two findings overlap. -/
def overlaps (finding other : Finding) : Bool :=
  finding.start < other.stop && other.start < finding.stop

end Finding

namespace Rule

/-- The query for slots of a rule. -/
def query (rule : Rule) (synthesizer : Option Synthesizer) (language : Language)
    (slots : List Slot) : Query :=
  ⟨slots, rule.table, synthesizer, language, .respected⟩

/-- Whether the sentence has one of the forms. -/
def hasForm (sentence : Sentence) (forms : List String) : Bool :=
  sentence.positions.any fun position => forms.contains position.text

/-- Whether the sentence has a reading with one of the headwords. -/
def hasHeadword (sentence : Sentence) (headwords : List String) : Bool :=
  sentence.positions.any fun position =>
    position.readings.any fun reading =>
      headwords.contains (reading.headword.getD reading.text)

/-- Whether the sentence has what the hints of the rule ask for, so that it is worth searching. -/
def mayOccur (rule : Rule) (sentence : Sentence) : Bool :=
  rule.formHints.all (hasForm sentence) && rule.headwordHints.all (hasHeadword sentence)

/-! ## Values of references -/

/-- Words with a space before those that ask for one, unless nothing precedes them. -/
def textOfBound (positions : List Position) : List Nat → String :=
  List.foldl
    (fun written index =>
      let position := positions[index]?.getD default
      let space := if !written.isEmpty && position.spaceBefore then " " else ""
      written ++ space ++ position.text)
    ""

/-- The place behind the last word that a rendering takes in, for a slot whose last word is `last`.
-/
def extentEnd (rendering : Rendering) (occurrence : Occurrence) (slot last : Nat) : Nat :=
  let named := rendering.lastSlot.bind fun number => (occurrence.positionsOf (number - 1)).getLast?
  match named with
  | some position => position + 1
  | none =>
      let behind := occurrence.bindings.filter fun binding => slot < binding.slot
      ((behind.map (·.position)).min?).getD (last + 1)

/--
The values of a reference: the words of a slot as they are to be written.  A slot without words
gives the empty text; words without forms give no value.
-/
def valuesOf (rule : Rule) (synthesizer : Option Synthesizer) (language : Language)
    (sentence : Sentence) (occurrence : Occurrence) (number : Nat) :
    Except SearchError (List String) :=
  match number with
  | 0 => .ok [""]
  | slot + 1 =>
      match occurrence.bindingsOf slot, (occurrence.positionsOf slot).getLast? with
      | binding :: _, some last =>
          match rule.rendering? number with
          | none => .ok [textOfBound sentence.positions (occurrence.positionsOf slot)]
          | some rendering =>
              let first := binding.position
              let position := sentence.positions[first]?.getD default
              let readings := binding.readings.filterMap (position.readings[·]?)
              let stop := extentEnd rendering occurrence slot last
              let following := (sentence.positions.drop (first + 1)).take (stop - (first + 1))
              (rendering.texts synthesizer language position readings following).mapError
                .synthesis
      | _, _ => .ok [""]

/-! ## Findings -/

/-- The positions from the first marked one to behind the last; all of them if none is marked. -/
def markedSpan (rule : Rule) (occurrence : Occurrence) : Nat × Nat :=
  let marked := markedPositions rule.slots occurrence.bindings
  match marked.min?, marked.max? with
  | some first, some last => (first, last + 1)
  | _, _ => (occurrence.start, occurrence.stop)

/-- Whether a template begins with a reference whose rendering decides about case. -/
def beginsWithConversion (rule : Rule) (template : Template) : Bool :=
  match template.references with
  | reference :: _ =>
      reference.literal.isEmpty &&
        ((reference.number?.bind rule.rendering?).any (·.convertsCase))
  | [] => false

/-- The text that decides whether suggestions begin in uppercase.  At the start of a sentence it is
the first word. -/
def caseSample (positions : List Position) (first last : Nat) : String :=
  let position := positions[first]?.getD default
  if position.sentenceStart && first + 1 < last then
    (positions[first + 1]?.getD default).text
  else position.text

/-- The suggestions that a template gives for an occurrence. -/
def suggestionsOf (rule : Rule) (synthesizer : Option Synthesizer) (language : Language)
    (sentence : Sentence) (occurrence : Occurrence) (uppercase : Bool) (text : String) :
    Except SearchError (List String) := do
  let template := Template.ofText text
  let suggestions ←
    template.suggestions (rule.valuesOf synthesizer language sentence occurrence)
  if uppercase && !rule.beginsWithConversion template then
    .ok (suggestions.map language.uppercaseFirst)
  else
    .ok suggestions

/-- The report of an occurrence. -/
def finding (rule : Rule) (synthesizer : Option Synthesizer) (language : Language)
    (sentence : Sentence) (occurrence : Occurrence) : Except SearchError Finding := do
  let positions := sentence.positions
  let startOf := fun index => (positions[index]?.getD default).start
  let stopOf := fun index => (positions[index]?.getD default).stop
  let (first, last) := rule.markedSpan occurrence
  let valuesOf := rule.valuesOf synthesizer language sentence occurrence
  let message ← (Template.ofText rule.message).message valuesOf
  let shortMessage ← (Template.ofText rule.shortMessage).message valuesOf
  let uppercase := startsUppercase (caseSample positions first last)
  let suggestions ← rule.suggestions.mapM
    (rule.suggestionsOf synthesizer language sentence occurrence uppercase)
  .ok {
    rule := rule.id
    start := startOf first
    stop := stopOf (last - 1)
    firstWord := first
    lastWord := last
    patternStart := startOf occurrence.start
    patternStop := stopOf (occurrence.stop - 1)
    message := message
    shortMessage := shortMessage
    suggestions := distinct suggestions.flatten }

/-- Whether two occurrences have a position in common. -/
def overlaps (occurrence other : Occurrence) : Bool :=
  occurrence.start < other.stop && other.start < occurrence.stop

/-- The occurrences of the antipatterns. -/
def exempted (rule : Rule) (synthesizer : Option Synthesizer) (language : Language)
    (sentence : Sentence) : Except SearchError (List Occurrence) := do
  let found ← rule.antipatterns.mapM fun slots =>
    (rule.query synthesizer language slots).occurrences sentence
  .ok found.flatten

/-- The findings in a sentence, whether or not the hints speak for them. -/
def searchFindings (rule : Rule) (synthesizer : Option Synthesizer) (language : Language)
    (sentence : Sentence) : Except SearchError (List Finding) := do
  let exempted ← rule.exempted synthesizer language sentence
  let visit := fun occurrence =>
    if exempted.any (overlaps occurrence) then .ok none
    else some <$> rule.finding synthesizer language sentence occurrence
  (rule.query synthesizer language rule.slots).scan sentence visit sentence.length 0

/-- The findings in a sentence. -/
def findings (rule : Rule) (synthesizer : Option Synthesizer) (language : Language)
    (sentence : Sentence) : Except SearchError (List Finding) :=
  if rule.mayOccur sentence then rule.searchFindings synthesizer language sentence
  else .ok []

/-- The findings in a sentence as they are reported. -/
def reports (rule : Rule) (synthesizer : Option Synthesizer) (language : Language)
    (sentence : Sentence) : Except SearchError (List Finding) :=
  (rule.findings synthesizer language sentence).map (·.map Finding.wrapped)

end Rule

end PhraseRules
