import PhraseRules.Disambiguation
import PhraseRules.Lexicon.File
import PhraseRules.Rulebook
import PhraseRules.Sentence.Split

/-!
# The checker

A checker takes a text through all stages: it is split into sentences, their words are looked up in
a lexicon, readings are disambiguated, and the rules report what they find.  Findings count
characters of the whole text, so that the first suggestion of each can be written into it.
-/

namespace PhraseRules

/-- A file with a lexicon; no content stands for no file. -/
structure LexiconFile where
  path : String
  content : Option ByteArray

/-- What a checker is made from. -/
structure Configuration where
  language : String
  lexicon : Option LexiconFile
  /-- Sentences with more words are left out. -/
  greatestLength : Nat

namespace Configuration

/-- What holds unless something else is said. -/
def initial : Configuration :=
  ⟨"es", none, 200⟩

/-- The configuration for a language. -/
def ofLanguage (language : String) : Configuration :=
  { initial with language := Language.canonicalCode language }

end Configuration

/-- Why a checker cannot be made. -/
inductive CheckerError where
  | unsupportedLanguage (language : String)
  | lexicon (fault : LexiconError)
deriving DecidableEq, Repr

/-- The wording of a failure. -/
def CheckerError.message : CheckerError → String
  | .unsupportedLanguage language => s!"idioma no soportado: {language}"
  | .lexicon fault => fault.message

/-- What texts are checked with. -/
structure Checker where
  language : Language
  lexicon : Option Lexicon
  disambiguation : List DisambiguationRule
  rulebook : Rulebook
  greatestLength : Nat

namespace Checker

/-- The lexicon of a configuration, if it names one. -/
def loadLexicon : Option LexiconFile → Except CheckerError (Option Lexicon)
  | none => .ok none
  | some file =>
      match Lexicon.ofFile file.path file.content with
      | .ok lexicon => .ok (some lexicon)
      | .error fault => .error (.lexicon fault)

/-- The checker without rules for a configuration. -/
def ofConfiguration (configuration : Configuration) : Except CheckerError Checker :=
  match Language.ofCode? (Language.canonicalCode configuration.language) with
  | none => .error (.unsupportedLanguage configuration.language)
  | some language => do
      let lexicon ← loadLexicon configuration.lexicon
      .ok ⟨language, lexicon, [], .empty, configuration.greatestLength⟩

/-- Adds error rules behind the others. -/
def addRules (checker : Checker) (rules : List Rule) : Checker :=
  { checker with rulebook := checker.rulebook.add rules }

/-- Adds a disambiguation rule behind the others. -/
def addDisambiguation (checker : Checker) (rule : DisambiguationRule) : Checker :=
  { checker with disambiguation := checker.disambiguation ++ [rule] }

/-- The lexicon as a synthesizer. -/
def synthesizer (checker : Checker) : Option Synthesizer :=
  checker.lexicon.map (·.synthesizer)

/-- The sentence with the readings of the lexicon, disambiguated if that succeeds. -/
def analyzeSentence (checker : Checker) (sentence : Sentence) : Sentence :=
  let tagged := match checker.lexicon with
    | some lexicon => lexicon.tag sentence
    | none => sentence
  match disambiguate checker.disambiguation checker.language tagged with
  | .ok disambiguated => disambiguated
  | .error _ => tagged

/-- Whether a sentence has no more words than are allowed. -/
def allows (checker : Checker) (sentence : Sentence) : Bool :=
  sentence.length - 1 ≤ checker.greatestLength

/-- The analysed sentences of a text, each with its offset. -/
def analyzeText (checker : Checker) (text : String) : List (Nat × Sentence) :=
  match Sentence.split text with
  | .error _ => []
  | .ok sentences =>
      (sentences.filter fun placed => checker.allows placed.2).map fun placed =>
        (placed.1, checker.analyzeSentence placed.2)

/-- The findings in a text. -/
def check (checker : Checker) (text : String) : List Finding :=
  checker.rulebook.analyzeAll checker.synthesizer checker.language (checker.analyzeText text)

/-! ## Corrections -/

/-- Whether a finding is in the way of another one. -/
def conflicts (accepted finding : Finding) : Bool :=
  accepted.overlaps finding || accepted.start == finding.start

/-- The findings to correct in a text of `length` characters.  A finding that is in the way of an
earlier one is left out. -/
def accept (length : Nat) (findings : List Finding) : List Finding :=
  findings.foldl
    (fun accepted finding =>
      if finding.suggestions.isEmpty || length < finding.stop ||
          accepted.any (conflicts · finding) then accepted
      else accepted ++ [finding])
    []

/-- The text with the first suggestion in place of the marked words. -/
def replace (text : List Char) (finding : Finding) : List Char :=
  text.take finding.start ++ (finding.suggestions.headD "").toList ++ text.drop finding.stop

/-- The text with the first suggestion of each finding, as far as they do not conflict. -/
def correct (checker : Checker) (text : String) : String :=
  let chars := text.toList
  let accepted := Rulebook.sortByStart (accept chars.length (checker.check text))
  String.ofList (accepted.reverse.foldl replace chars)

end Checker

end PhraseRules
