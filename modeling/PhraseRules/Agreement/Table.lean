import PhraseRules.Slot.Spec

/-!
# Tables of features

A table defines the classes of each feature: which readings belong to the singular, which to the
plural.  A filter is resolved against a table before words are compared.
-/

namespace PhraseRules

/-- The features with their classes; a slot says which readings belong to a class. -/
abbrev FeatureTable : Type :=
  SortedMap String (SortedMap String Slot)

/-- A feature with the classes that count, in the order in which they were asked for. -/
structure ResolvedFeature where
  name : String
  classes : List (String × Slot)

namespace FeatureTable

/-- Defines a class of a feature, or defines it anew. -/
def define (table : FeatureTable) (feature featureClass : String) (spec : SlotSpec) :
    Except PatternError FeatureTable := do
  let slot ← spec.compile
  let classes := (SortedMap.find? feature table).getD []
  .ok (SortedMap.set feature (SortedMap.set featureClass slot classes) table)

/-- The classes of a feature, if it is defined. -/
def classes? (table : FeatureTable) (feature : String) : Option (List String) :=
  (SortedMap.find? feature table).map SortedMap.keys

/-- The requested classes of a feature. -/
def resolveClasses (feature : String) (defined : SortedMap String Slot) :
    List String → Except PatternError (List (String × Slot))
  | [] => .ok []
  | featureClass :: later =>
      match SortedMap.find? featureClass defined with
      | none => .error (.unknownClass feature featureClass)
      | some slot => do .ok ((featureClass, slot) :: (← resolveClasses feature defined later))

/-- The features of a filter with the classes that count. -/
def resolve (table : FeatureTable) : FeatureFilter → Except PatternError (List ResolvedFeature)
  | [] => .ok []
  | (feature, requested) :: later =>
      match SortedMap.find? feature table with
      | none => .error (.unknownFeature feature)
      | some defined => do
          let classes ←
            if requested.isEmpty then .ok defined else resolveClasses feature defined requested
          .ok (⟨feature, classes⟩ :: (← resolve table later))

/-- Checks that the features and classes of a filter are defined. -/
def validate (table : FeatureTable) (filter : FeatureFilter) : Except PatternError Unit := do
  let _ ← table.resolve filter
  .ok ()

end FeatureTable

end PhraseRules
