import PhraseRules.Rule.Basic
import PhraseRules.Rule.Marked
import PhraseRules.Search.Scan

/-!
# Disambiguation

A disambiguation rule looks for a pattern as an error rule does, but instead of reporting an
occurrence it narrows the readings of the marked words, or protects them from error rules.
Protected words can still be found.
-/

namespace PhraseRules

/-- What is done to marked words. -/
inductive DisambiguationAction where
  /-- Protects the word from error rules. -/
  | immunize
  /-- Keeps the readings whose tags the matcher accepts, if there are any. -/
  | filter (tags : Matcher)
  /-- Drops the readings whose tags the matcher accepts, unless none would be left. -/
  | remove (tags : Matcher)
deriving DecidableEq, Repr

namespace DisambiguationAction

/-- Keeps the readings whose tags an expression matches. -/
def ofFilter (pattern : String) : Except PatternError DisambiguationAction := do
  .ok (.filter (← Matcher.regex pattern))

/-- Drops the readings whose tags an expression matches. -/
def ofRemoval (pattern : String) : Except PatternError DisambiguationAction := do
  .ok (.remove (← Matcher.regex pattern))

/-- The action as histories name it. -/
def label : DisambiguationAction → String
  | .immunize => "immunize"
  | .filter tags => s!"filter {tags.pattern}"
  | .remove tags => s!"remove {tags.pattern}"

/-- Whether the matcher accepts the tag of a reading; it accepts no missing tag. -/
def acceptsTag (tags : Matcher) (reading : Reading) : Bool :=
  reading.tag.any tags.accepts

/-- The position with the readings that are kept, and the line for its history, unless all or none
of them are. -/
def keepReadings (kept : List Reading) (line : String) (position : Position) : Position :=
  if kept.length = position.readings.length ∨ kept.isEmpty then position
  else { position with readings := kept }.note line

/-- Does the action to a position; the line goes into its history if anything changes. -/
def applyTo (action : DisambiguationAction) (line : String) (position : Position) : Position :=
  match action with
  | .immunize => if position.immune then position else position.immunize.note line
  | .filter tags => keepReadings (position.readings.filter (acceptsTag tags)) line position
  | .remove tags =>
      keepReadings (position.readings.filter fun reading => !acceptsTag tags reading) line position

end DisambiguationAction

/-- A disambiguation rule that is ready to be applied. -/
structure DisambiguationRule where
  id : String
  slots : List Slot
  action : DisambiguationAction
  table : Option FeatureTable

namespace DisambiguationRule

/-- The rule for a pattern; without a table of features its slots cannot ask for agreement. -/
def compile (id : String) (pattern : List SlotSpec) (action : DisambiguationAction)
    (table : Option FeatureTable) : Except RuleError DisambiguationRule := do
  if pattern.isEmpty then .error (.emptyPattern id)
  else .ok ⟨id, ← compilePattern id table pattern, action, table⟩

/-- The query for the pattern of the rule. -/
def query (rule : DisambiguationRule) (language : Language) : Query :=
  ⟨rule.slots, rule.table, none, language, .ignored⟩

/-- The line that the rule leaves in histories. -/
def historyLine (rule : DisambiguationRule) : String :=
  s!"{rule.id}: {rule.action.label}"

/-- The sentence with the action done to every marked word. -/
def apply (rule : DisambiguationRule) (language : Language) (sentence : Sentence) :
    Except SearchError Sentence := do
  let found ← (rule.query language).occurrences sentence
  let marked := found.flatMap fun occurrence => markedPositions rule.slots occurrence.bindings
  .ok ⟨marked.foldl
    (fun positions index => positions.modify index (rule.action.applyTo rule.historyLine))
    sentence.positions⟩

end DisambiguationRule

/-- Applies rules in order, each to what the one before leaves. -/
def disambiguate (rules : List DisambiguationRule) (language : Language) (sentence : Sentence) :
    Except SearchError Sentence :=
  rules.foldlM (fun current rule => rule.apply language current) sentence

end PhraseRules
