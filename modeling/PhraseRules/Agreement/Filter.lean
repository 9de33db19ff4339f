import PhraseRules.Sorted

/-!
# Features to agree in

A slot can ask its word to agree with those of its neighbours in features such as gender and number.
A filter names the features and, for each, the classes that count.
-/

namespace PhraseRules

/-- Features with the classes that count; no classes stand for all that are defined. -/
abbrev FeatureFilter : Type :=
  SortedMap String (List String)

/-- The agreement that a slot asks for. -/
structure Agreement where
  filter : FeatureFilter
  /-- Whether the words must not agree. -/
  negated : Bool
deriving DecidableEq, Repr

end PhraseRules
