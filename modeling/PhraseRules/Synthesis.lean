import PhraseRules.Matcher.Basic

/-!
# Synthesis

A synthesizer lists the inflected forms of a headword whose tags a matcher accepts.  That there are
none is an answer; a failure is something else.
-/

namespace PhraseRules

/-- The failure of a synthesizer to answer. -/
structure SynthesisError where
  headword : String
  /-- The pattern of the tags that were asked for. -/
  tag : String
  message : String
deriving DecidableEq, Repr

/-- The wording of a failure. -/
def SynthesisError.describe (failure : SynthesisError) : String :=
  s!"error de síntesis para '{failure.headword}' ({failure.tag}): {failure.message}"

/-- The forms of a headword whose tags a matcher accepts. -/
abbrev Synthesizer : Type :=
  String → Matcher → Except SynthesisError (List String)

end PhraseRules
