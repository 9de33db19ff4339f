import PhraseRules.Agreement.Session
import PhraseRules.Proofs.Agreement.Table

/-!
# Selections of classes

A session works with the numbers of classes.  What it is about are the classes themselves: a
selection takes one class for every feature, and a reading realizes it if it belongs to all of
them.  This module relates the two: the numbers that a reading realizes are those of the selections
that it realizes.
-/

namespace PhraseRules

/-- The property holds of exactly the listed elements. -/
theorem Slot.mem_indicesFrom_iff {α : Type} {holds : α → Bool} {index number : Nat}
    {elements : List α} :
    number ∈ Slot.indicesFrom holds index elements ↔
      ∃ offset element, elements[offset]? = some element ∧ holds element = true ∧
        number = index + offset := by
  induction elements generalizing index with
  | nil => simp [Slot.indicesFrom]
  | cons first later induction =>
      have shifted :
          number ∈ Slot.indicesFrom holds (index + 1) later ↔
            ∃ offset element, (first :: later)[offset + 1]? = some element ∧
              holds element = true ∧ number = index + (offset + 1) := by
        rw [induction]
        simp only [List.getElem?_cons_succ, Nat.add_assoc, Nat.add_comm 1]
      have split :
          (∃ offset element, (first :: later)[offset]? = some element ∧ holds element = true ∧
              number = index + offset) ↔
            (holds first = true ∧ number = index) ∨
              number ∈ Slot.indicesFrom holds (index + 1) later := by
        rw [shifted]
        constructor
        · rintro ⟨offset, element, found, holdsElement, rfl⟩
          cases offset with
          | zero =>
              rcases Option.some.inj found with rfl
              exact Or.inl ⟨holdsElement, rfl⟩
          | succ offset => exact Or.inr ⟨offset, element, found, holdsElement, rfl⟩
        · rintro (⟨holdsFirst, rfl⟩ | ⟨offset, element, found, holdsElement, rfl⟩)
          · exact ⟨0, first, rfl, holdsFirst, rfl⟩
          · exact ⟨offset + 1, element, found, holdsElement, rfl⟩
      rw [split, Slot.indicesFrom]
      split
      case isTrue holdsFirst => simp [holdsFirst]
      case isFalse fails => simp [fails]

/-- One class for every feature, with the slot that says which readings belong to it. -/
abbrev ClassSelection : Type :=
  List (String × Slot)

namespace ClassSelection

/-- Every class is one of those that count for its feature. -/
def IsFrom (features : List ResolvedFeature) (selection : ClassSelection) : Prop :=
  List.Forall₂ (fun feature entry => entry ∈ feature.classes) features selection

/-- Every class is one of those that a filter requests of its feature. -/
def IsRequested (table : FeatureTable) (filter : FeatureFilter) (selection : ClassSelection) :
    Prop :=
  List.Forall₂ table.IsRequested filter selection

/-- The reading belongs to all the classes. -/
def IsRealizedBy (selection : ClassSelection) (position : Position) (reading : Reading) : Prop :=
  ∀ entry ∈ selection, entry.2.acceptsReading reading position = true

/-- The classes that are requested are those of the resolved features. -/
theorem isFrom_iff_isRequested {table : FeatureTable} {filter : FeatureFilter}
    {features : List ResolvedFeature}
    (answers : List.Forall₂ (ResolvedFeature.Answers table) filter features)
    (selection : ClassSelection) :
    selection.IsFrom features ↔ selection.IsRequested table filter := by
  induction answers generalizing selection with
  | nil =>
      rw [IsFrom, IsRequested, List.forall₂_nil_left_iff, List.forall₂_nil_left_iff]
  | cons answer _ induction =>
      rw [IsFrom, IsRequested, List.forall₂_cons_left_iff, List.forall₂_cons_left_iff]
      simp only [answer.mem_iff]
      constructor
      · rintro ⟨entry, later, requested, isFrom, rfl⟩
        exact ⟨entry, later, requested, (induction later).mp isFrom, rfl⟩
      · rintro ⟨entry, later, requested, isRequested, rfl⟩
        exact ⟨entry, later, requested, (induction later).mpr isRequested, rfl⟩

/-- For the features of a filter a class can be selected for each. -/
theorem exists_isFrom {table : FeatureTable} {filter : FeatureFilter}
    {features : List ResolvedFeature}
    (answers : List.Forall₂ (ResolvedFeature.Answers table) filter features) :
    ∃ selection : ClassSelection, selection.IsFrom features := by
  induction answers with
  | nil => exact ⟨[], List.Forall₂.nil⟩
  | cons answer _ induction =>
      rcases List.exists_mem_of_ne_nil _ answer.nonempty with ⟨entry, member⟩
      rcases induction with ⟨selection, isFrom⟩
      exact ⟨entry :: selection, List.Forall₂.cons member isFrom⟩

end ClassSelection

/-! ## Selections by number -/

/-- The classes with the chosen numbers, if there are such classes for all features. -/
def ClassChoice.selection? : List ResolvedFeature → ClassChoice → Option ClassSelection
  | [], [] => some []
  | feature :: later, number :: numbers =>
      match feature.classes[number]?, selection? later numbers with
      | some entry, some selection => some (entry :: selection)
      | _, _ => none
  | _, _ => none

namespace ClassChoice

theorem selection?_cons_eq_some_iff {feature : ResolvedFeature} {later : List ResolvedFeature}
    {number : Nat} {numbers : ClassChoice} {selection : ClassSelection} :
    selection? (feature :: later) (number :: numbers) = some selection ↔
      ∃ entry others, feature.classes[number]? = some entry ∧
        selection? later numbers = some others ∧ selection = entry :: others := by
  rw [selection?]
  split
  case h_1 entry others found foundLater =>
      simp [found, foundLater, eq_comm]
  case h_2 missing =>
      constructor
      · intro absent
        cases absent
      · rintro ⟨entry, others, found, foundLater, -⟩
        exact (missing entry others found foundLater).elim

theorem isFrom_of_selection? {features : List ResolvedFeature} {choice : ClassChoice}
    {selection : ClassSelection} (selected : selection? features choice = some selection) :
    selection.IsFrom features := by
  induction features generalizing choice selection with
  | nil =>
      cases choice with
      | nil =>
          rcases Option.some.inj selected with rfl
          exact List.Forall₂.nil
      | cons number numbers => cases selected
  | cons feature later induction =>
      cases choice with
      | nil => cases selected
      | cons number numbers =>
          rcases selection?_cons_eq_some_iff.mp selected with
            ⟨entry, others, found, selectedLater, rfl⟩
          exact List.Forall₂.cons (List.mem_of_getElem? found) (induction selectedLater)

/-- Every selection has numbers. -/
theorem exists_selection?_eq {features : List ResolvedFeature} {selection : ClassSelection}
    (isFrom : selection.IsFrom features) :
    ∃ choice, selection? features choice = some selection := by
  induction isFrom with
  | nil => exact ⟨[], rfl⟩
  | cons member _ induction =>
      rcases List.mem_iff_getElem?.mp member with ⟨number, found⟩
      rcases induction with ⟨numbers, selected⟩
      exact ⟨number :: numbers,
        selection?_cons_eq_some_iff.mpr ⟨_, _, found, selected, rfl⟩⟩

end ClassChoice

theorem ResolvedFeature.mem_classesOf_iff {feature : ResolvedFeature} {position : Position}
    {reading : Reading} {number : Nat} :
    number ∈ feature.classesOf position reading ↔
      ∃ entry, feature.classes[number]? = some entry ∧
        entry.2.acceptsReading reading position = true := by
  rw [ResolvedFeature.classesOf, Slot.mem_indicesFrom_iff]
  constructor
  · rintro ⟨offset, entry, found, accepts, rfl⟩
    exact ⟨entry, by rw [Nat.zero_add]; exact found, accepts⟩
  · rintro ⟨entry, found, accepts⟩
    exact ⟨number, entry, found, accepts, (Nat.zero_add number).symm⟩

/-- The choices that a reading realizes are the numbers of the selections that it realizes. -/
theorem mem_choicesOf_iff {position : Position} {reading : Reading}
    {features : List ResolvedFeature} {choice : ClassChoice} :
    choice ∈ choicesOf position reading features ↔
      ∃ selection, choice.selection? features = some selection ∧
        selection.IsRealizedBy position reading := by
  induction features generalizing choice with
  | nil =>
      cases choice with
      | nil => simp [choicesOf, ClassChoice.selection?, ClassSelection.IsRealizedBy]
      | cons number numbers => simp [choicesOf, ClassChoice.selection?]
  | cons feature later induction =>
      rw [choicesOf, List.mem_flatMap]
      constructor
      · rintro ⟨number, numberMember, member⟩
        rcases List.mem_map.mp member with ⟨numbers, numbersMember, rfl⟩
        rcases ResolvedFeature.mem_classesOf_iff.mp numberMember with ⟨entry, found, accepts⟩
        rcases induction.mp numbersMember with ⟨others, selected, realized⟩
        refine ⟨entry :: others,
          ClassChoice.selection?_cons_eq_some_iff.mpr ⟨entry, others, found, selected, rfl⟩, ?_⟩
        intro other otherMember
        rcases List.mem_cons.mp otherMember with rfl | otherMember
        · exact accepts
        · exact realized other otherMember
      · rintro ⟨selection, selected, realized⟩
        cases choice with
        | nil => cases selected
        | cons number numbers =>
            rcases ClassChoice.selection?_cons_eq_some_iff.mp selected with
              ⟨entry, others, found, selectedLater, rfl⟩
            refine ⟨number, ResolvedFeature.mem_classesOf_iff.mpr
              ⟨entry, found, realized entry List.mem_cons_self⟩, ?_⟩
            exact List.mem_map.mpr ⟨numbers, induction.mpr ⟨others, selectedLater,
              fun other member => realized other (List.mem_cons_of_mem _ member)⟩, rfl⟩

/-- A choice is realized by the readings that realize its selection. -/
theorem mem_choicesOf_of_selection? {features : List ResolvedFeature} {choice : ClassChoice}
    {selection : ClassSelection} (selected : choice.selection? features = some selection)
    (position : Position) (reading : Reading) :
    choice ∈ choicesOf position reading features ↔ selection.IsRealizedBy position reading := by
  rw [mem_choicesOf_iff, selected]
  simp

end PhraseRules
