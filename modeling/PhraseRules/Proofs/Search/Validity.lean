import PhraseRules.Proofs.Agreement.Run
import PhraseRules.Proofs.Search.Filling
import PhraseRules.Proofs.Search.Groups

/-!
# Valid assignments

An assignment of runs to slots is valid from a place on if every slot is filled as often as it asks
for, the runs follow each other as the slots allow, and the words of every group agree or disagree
as they should.  Nothing in this refers to a search.
-/

namespace PhraseRules

namespace Assignment

/-- The slots that are filled, numbered from `index` on, with their runs. -/
def filledFrom : (index : Nat) → Assignment → List (Nat × Run)
  | _, [] => []
  | index, none :: later => filledFrom (index + 1) later
  | index, some run :: later => (index, run) :: filledFrom (index + 1) later

/-- The slots that are filled, by their numbers, with their runs. -/
def filled (assignment : Assignment) : List (Nat × Run) :=
  assignment.filledFrom 0

/-- The places of the runs, by the numbers of their slots. -/
def placesOf (filled : List (Nat × Run)) : List (Nat × Nat) :=
  filled.flatMap fun entry => (List.range' entry.2.start entry.2.count).map (entry.1, ·)

/-- The place behind the last run. -/
def stop? (assignment : Assignment) : Option Nat :=
  assignment.filled.getLast?.map (·.2.stop)

theorem le_of_mem_filledFrom {assignment : Assignment} {index : Nat} {entry : Nat × Run}
    (member : entry ∈ assignment.filledFrom index) : index ≤ entry.1 := by
  induction assignment generalizing index with
  | nil => cases member
  | cons filling later induction =>
      cases filling with
      | none => exact Nat.le_of_succ_le (induction member)
      | some run =>
          rcases List.mem_cons.mp member with rfl | member
          · exact Nat.le_refl _
          · exact Nat.le_of_succ_le (induction member)

end Assignment

/-- What a word adds to the agreement of a group when it fills the slot. -/
def Slot.stepAt (slot : Slot) (positions : List Position) (index : Nat) : AgreementStep :=
  let position := positions[index]?.getD default
  if slot.neutral then .addNeutral index position
  else .addBound index position (slot.boundReadings position)

namespace Query

/-- The run of a slot may begin where it does behind the run of the slot filled before. -/
def Follows (query : Query) (positions : List Position) (former latter : Nat × Run) : Prop :=
  ∃ slot, query.slots[former.1]? = some slot ∧
    Lands positions (some slot) slot.skip former.2.stop latter.2.start

/-- The words that fill the slots of a group. -/
def wordsOf (query : Query) (positions : List Position) (group : AgreementGroup)
    (filled : List (Nat × Run)) : List AgreementStep :=
  (filled.filter fun entry => group.contains entry.1).flatMap fun entry =>
    query.slots[entry.1]?.elim [] fun slot =>
      (List.range' entry.2.start entry.2.count).map (slot.stepAt positions)

/-- The words have classes in common as the group requests them. -/
def Agree (query : Query) (group : AgreementGroup) (words : List AgreementStep) : Prop :=
  ∃ table, query.table = some table ∧
    ∃ selection : ClassSelection, selection.IsRequested table group.agreement.filter ∧
      AgreementStep.AllRealize words selection

/-- The words of a group, if there are any, agree unless the group asks for the opposite. -/
def AgreesAsAsked (query : Query) (positions : List Position) (group : AgreementGroup)
    (filled : List (Nat × Run)) : Prop :=
  query.wordsOf positions group filled ≠ [] →
    (query.Agree group (query.wordsOf positions group filled) ↔ group.agreement.negated = false)

end Query

/-- The assignment is a way to fill the slots of a query from a place on. -/
structure Assignment.IsValid (assignment : Assignment) (query : Query)
    (positions : List Position) (start : Nat) : Prop where
  admitted : List.Forall₂ (query.Admits positions) query.slots assignment
  /-- There is a first run, and it begins at the place. -/
  begins : assignment.filled.head?.map (·.2.start) = some start
  follows : assignment.filled.IsChain (query.Follows positions)
  agrees : ∀ group, some group ∈ query.groups →
    query.AgreesAsAsked positions group assignment.filled

namespace Query

variable {query : Query} {positions : List Position} {group : AgreementGroup}

theorem wordsOf_append (first second : List (Nat × Run)) :
    query.wordsOf positions group (first ++ second) =
      query.wordsOf positions group first ++ query.wordsOf positions group second := by
  simp only [wordsOf, List.filter_append, List.flatMap_append]

theorem wordsOf_eq_nil {filled : List (Nat × Run)}
    (outside : ∀ entry ∈ filled, group.contains entry.1 = false) :
    query.wordsOf positions group filled = [] := by
  have nothing : filled.filter (fun entry => group.contains entry.1) = [] := by
    rw [List.filter_eq_nil_iff]
    intro entry member
    exact Bool.eq_false_iff.mp (outside entry member)
  rw [wordsOf, nothing]
  rfl

theorem wordsOf_singleton {index : Nat} {slot : Slot} (standing : query.slots[index]? = some slot)
    (contained : group.contains index = true) (run : Run) :
    query.wordsOf positions group [(index, run)] =
      (List.range' run.start run.count).map (slot.stepAt positions) := by
  have kept : [(index, run)].filter (fun entry => group.contains entry.1) = [(index, run)] :=
    List.filter_cons_of_pos contained
  rw [wordsOf, kept, List.flatMap_singleton, standing]
  rfl

/-- Words that agree do so without the last ones. -/
theorem Agree.of_append {first second : List AgreementStep}
    (agree : query.Agree group (first ++ second)) : query.Agree group first := by
  rcases agree with ⟨table, table_eq, selection, requested, realize⟩
  exact ⟨table, table_eq, selection, requested,
    fun step member => realize step (List.mem_append_left _ member)⟩

end Query

/-- There are no valid assignments without slots. -/
theorem Assignment.IsValid.slots_ne_nil {assignment : Assignment} {query : Query}
    {positions : List Position} {start : Nat} (valid : assignment.IsValid query positions start) :
    query.slots ≠ [] := by
  intro noSlots
  have admitted := valid.admitted
  have begins := valid.begins
  rw [noSlots, List.forall₂_nil_left_iff] at admitted
  rw [admitted] at begins
  cases begins

end PhraseRules
