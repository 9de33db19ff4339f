import PhraseRules.Rule.Finding

/-!
# Rulebooks

A rulebook is a list of rules, each of which is enabled or not.  It is run on a sentence rule by
rule; a rule that fails reports nothing and does not keep the others from reporting.
-/

namespace PhraseRules

/-- A list of rules. -/
structure Rulebook where
  rules : List Rule

namespace Rulebook

/-- The rulebook without rules. -/
def empty : Rulebook :=
  ⟨[]⟩

/-- Adds rules behind the others. -/
def add (rulebook : Rulebook) (rules : List Rule) : Rulebook :=
  ⟨rulebook.rules ++ rules⟩

/-- The rules that are enabled. -/
def enabledRules (rulebook : Rulebook) : List Rule :=
  rulebook.rules.filter (·.enabled)

/-- Enables or disables all rules with a name. -/
def setEnabled (rulebook : Rulebook) (id : String) (enabled : Bool) : Rulebook :=
  ⟨rulebook.rules.map fun rule => if rule.id = id then { rule with enabled := enabled } else rule⟩

/-- The findings of a rule; a rule that fails has none. -/
def findingsOf (synthesizer : Option Synthesizer) (language : Language) (sentence : Sentence)
    (rule : Rule) : List Finding :=
  match rule.findings synthesizer language sentence with
  | .ok findings => findings
  | .error _ => []

/-- Findings by the offset at which they start; those that start together keep their order. -/
def sortByStart (findings : List Finding) : List Finding :=
  findings.mergeSort fun first second => first.start ≤ second.start

/-- The findings of all enabled rules in a sentence. -/
def analyze (rulebook : Rulebook) (synthesizer : Option Synthesizer) (language : Language)
    (sentence : Sentence) : List Finding :=
  sortByStart (rulebook.enabledRules.flatMap (findingsOf synthesizer language sentence))

/-- The findings in several sentences, each with its offset in a text. -/
def analyzeAll (rulebook : Rulebook) (synthesizer : Option Synthesizer) (language : Language)
    (sentences : List (Nat × Sentence)) : List Finding :=
  sentences.flatMap fun placed =>
    (rulebook.analyze synthesizer language placed.2).map (·.shift placed.1)

end Rulebook

end PhraseRules
