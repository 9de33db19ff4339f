import PhraseRules.Agreement.Table
import PhraseRules.Proofs.Outcome
import PhraseRules.Proofs.SortedMap

/-!
# Requested classes

A table is made by defining classes one after the other.  In such a table every feature has a class
and every class is defined once.  Resolving a filter then gives, for each of its features, exactly
the classes that are requested.
-/

namespace PhraseRules

namespace FeatureTable

open Outcome

/-- There is a table, and it defines the features and classes of the filter. -/
def Resolves (table : Option FeatureTable) (filter : FeatureFilter) : Prop :=
  ∃ defined features, table = some defined ∧ defined.resolve filter = .ok features

/-- The tables that are made by defining classes. -/
inductive Defined : FeatureTable → Prop where
  | empty : Defined []
  | define {table result : FeatureTable} {feature featureClass : String} {spec : SlotSpec}
      (defined : Defined table) (step : define table feature featureClass spec = .ok result) :
      Defined result

/-- Every feature has a class, and its classes are sorted by their names. -/
def WellFormed (table : FeatureTable) : Prop :=
  ∀ entry ∈ table, entry.2.IsSorted ∧ entry.2 ≠ []

theorem WellFormed.define {table result : FeatureTable} {feature featureClass : String}
    {spec : SlotSpec} (wellFormed : WellFormed table)
    (step : define table feature featureClass spec = .ok result) : WellFormed result := by
  rcases bind_eq_ok_iff.mp step with ⟨slot, -, result_eq⟩
  rcases Except.ok.inj result_eq with rfl
  have oldSorted : SortedMap.IsSorted ((SortedMap.find? feature table).getD []) := by
    cases found : SortedMap.find? feature table with
    | none => exact SortedMap.isSorted_nil
    | some classes => exact (wellFormed _ (SortedMap.mem_of_find? found)).1
  intro entry member
  rcases SortedMap.mem_set member with rfl | member
  · exact ⟨oldSorted.set featureClass slot, SortedMap.set_ne_nil featureClass slot _⟩
  · exact wellFormed entry member

theorem Defined.wellFormed {table : FeatureTable} (defined : Defined table) :
    WellFormed table := by
  induction defined with
  | empty => intro entry member; cases member
  | define _ step induction => exact induction.define step

/-! ## Requests -/

/-- The class is one of those that are requested of a feature; no classes stand for all. -/
def IsRequested (table : FeatureTable) (request : String × List String)
    (entry : String × Slot) : Prop :=
  ∃ classes, SortedMap.find? request.1 table = some classes ∧
    SortedMap.find? entry.1 classes = some entry.2 ∧
    (request.2 = [] ∨ entry.1 ∈ request.2)

theorem mem_resolveClasses_iff {feature : String} {defined : SortedMap String Slot}
    {requested : List String} {classes : List (String × Slot)}
    (resolved : resolveClasses feature defined requested = .ok classes)
    (entry : String × Slot) :
    entry ∈ classes ↔ SortedMap.find? entry.1 defined = some entry.2 ∧ entry.1 ∈ requested := by
  induction requested generalizing classes with
  | nil =>
      rcases Except.ok.inj resolved with rfl
      simp
  | cons featureClass later induction =>
      rw [resolveClasses] at resolved
      split at resolved
      case h_1 => cases resolved
      case h_2 slot found =>
          rcases bind_eq_ok_iff.mp resolved with ⟨others, resolvedLater, classes_eq⟩
          rcases Except.ok.inj classes_eq with rfl
          rw [List.mem_cons, List.mem_cons, induction resolvedLater]
          constructor
          · rintro (rfl | ⟨foundEntry, member⟩)
            · exact ⟨found, Or.inl rfl⟩
            · exact ⟨foundEntry, Or.inr member⟩
          · rintro ⟨foundEntry, same | member⟩
            · left
              rw [same, found] at foundEntry
              exact Prod.ext same (Option.some.inj foundEntry).symm
            · exact Or.inr ⟨foundEntry, member⟩

theorem resolveClasses_ne_nil {feature featureClass : String} {defined : SortedMap String Slot}
    {later : List String} {classes : List (String × Slot)}
    (resolved : resolveClasses feature defined (featureClass :: later) = .ok classes) :
    classes ≠ [] := by
  rw [resolveClasses] at resolved
  split at resolved
  case h_1 => cases resolved
  case h_2 slot found =>
      rcases bind_eq_ok_iff.mp resolved with ⟨others, -, classes_eq⟩
      rcases Except.ok.inj classes_eq with rfl
      exact List.cons_ne_nil _ _

end FeatureTable

/-- A resolved feature has exactly the classes that are requested of it, and at least one. -/
structure ResolvedFeature.Answers (table : FeatureTable) (request : String × List String)
    (feature : ResolvedFeature) : Prop where
  mem_iff : ∀ entry, entry ∈ feature.classes ↔ table.IsRequested request entry
  nonempty : feature.classes ≠ []

namespace FeatureTable

open Outcome

/-- A filter is resolved feature by feature. -/
theorem exists_of_resolve_cons {table : FeatureTable} {name : String} {requested : List String}
    {later : FeatureFilter} {features : List ResolvedFeature}
    (resolved : table.resolve ((name, requested) :: later) = .ok features) :
    ∃ defined classes others, SortedMap.find? name table = some defined ∧
      (if requested.isEmpty then .ok defined else resolveClasses name defined requested) =
          .ok classes ∧
        table.resolve later = .ok others ∧ features = ⟨name, classes⟩ :: others := by
  rw [FeatureTable.resolve] at resolved
  split at resolved
  case h_1 => cases resolved
  case h_2 defined found =>
      cases requested with
      | nil =>
          rcases bind_eq_ok_iff.mp resolved with ⟨classes, classes_eq, resolved⟩
          rcases bind_eq_ok_iff.mp resolved with ⟨others, resolvedLater, features_eq⟩
          exact ⟨defined, classes, others, found, classes_eq, resolvedLater,
            (Except.ok.inj features_eq).symm⟩
      | cons featureClass laterClasses =>
          rcases bind_eq_ok_iff.mp resolved with ⟨classes, classes_eq, resolved⟩
          rcases bind_eq_ok_iff.mp resolved with ⟨others, resolvedLater, features_eq⟩
          exact ⟨defined, classes, others, found, classes_eq, resolvedLater,
            (Except.ok.inj features_eq).symm⟩

/-- The features of a filter are resolved in their order. -/
theorem names_of_resolve {table : FeatureTable} {filter : FeatureFilter}
    {features : List ResolvedFeature} (resolved : table.resolve filter = .ok features) :
    List.Forall₂ (fun request feature => feature.name = request.1) filter features := by
  induction filter generalizing features with
  | nil =>
      rcases Except.ok.inj resolved with rfl
      exact List.Forall₂.nil
  | cons request later induction =>
      rcases exists_of_resolve_cons resolved with ⟨_, _, others, -, -, resolvedLater, rfl⟩
      exact List.Forall₂.cons rfl (induction resolvedLater)

/-- Resolving a filter gives the classes that are requested of its features, in their order. -/
theorem WellFormed.resolve {table : FeatureTable} (wellFormed : WellFormed table)
    {filter : FeatureFilter} {features : List ResolvedFeature}
    (resolved : table.resolve filter = .ok features) :
    List.Forall₂ (ResolvedFeature.Answers table) filter features := by
  induction filter generalizing features with
  | nil =>
      rcases Except.ok.inj resolved with rfl
      exact List.Forall₂.nil
  | cons request later induction =>
      rcases request with ⟨name, requested⟩
      rcases exists_of_resolve_cons resolved with
        ⟨defined, classes, others, found, classes_eq, resolvedLater, rfl⟩
      rcases wellFormed _ (SortedMap.mem_of_find? found) with ⟨sorted, nonempty⟩
      have requested_iff (entry : String × Slot) :
          table.IsRequested (name, requested) entry ↔
            SortedMap.find? entry.1 defined = some entry.2 ∧
              (requested = [] ∨ entry.1 ∈ requested) := by
        constructor
        · rintro ⟨other, foundOther, answer⟩
          rcases Option.some.inj (found.symm.trans foundOther) with rfl
          exact answer
        · exact fun answer => ⟨defined, found, answer⟩
      cases requested with
      | nil =>
          rcases Except.ok.inj classes_eq with rfl
          refine List.Forall₂.cons ⟨fun entry => ?_, nonempty⟩ (induction resolvedLater)
          rw [requested_iff, ← sorted.mem_iff_find?]
          simp
      | cons featureClass laterClasses =>
          refine List.Forall₂.cons ⟨fun entry => ?_, ?_⟩ (induction resolvedLater)
          · rw [requested_iff, mem_resolveClasses_iff classes_eq]
            simp
          · exact resolveClasses_ne_nil classes_eq

end FeatureTable

end PhraseRules
