import PhraseRules.Proofs.Agreement.Lookahead
import PhraseRules.Proofs.Slot.Readings

/-!
# Who belongs to a class

A class is defined with a slot, but it is a class of readings: a reading belongs to it if form, tag
and space are as the slot itself asks for.  The main statement is that a session puts no other
question, whether it lists candidates, is asked ahead or takes a word in.  So of the slot only its
core counts.  Chunk, conjuncts, alternatives and exceptions are asked of whole words, and
`exists_member_unsatisfied` shows for each of them that it has no part in it.
-/

namespace PhraseRules

namespace Slot

/-- The slot without all that is asked of a whole word and not of one reading. -/
def core (slot : Slot) : Slot :=
  { slot with
    criterion := { slot.criterion with chunk := none }
    exceptions := []
    conjuncts := []
    alternatives := [] }

/-- A reading passes just if, with it alone, the word fills the core of the slot. -/
theorem acceptsReading_eq_core_accepts (slot : Slot) (reading : Reading) (position : Position) :
    slot.acceptsReading reading position = slot.core.accepts (position.only reading) := by
  have holds_eq : slot.core.criterion.holds (position.only reading) =
      slot.core.criterion.holdsOfReading reading (position.only reading) :=
    Bool.or_false _
  have accepts_eq : slot.core.accepts (position.only reading) =
      slot.core.criterion.holds (position.only reading) := by
    rw [core, accepts, someAccepts, allAccept, exceptionAccepts]
    simp
  rw [accepts_eq, holds_eq, Criterion.holdsOfReading_only]
  rfl

end Slot

/-- The candidates of a feature are those of its classes that some reading belongs to. -/
theorem ResolvedFeature.mem_candidates_iff {feature : ResolvedFeature} {position : Position}
    {name : String} :
    name ∈ feature.candidates position ↔
      ∃ slot, (name, slot) ∈ feature.classes ∧
        ∃ reading ∈ position.readings, slot.acceptsReading reading position = true := by
  simp [candidates, mem_sortDistinct]

namespace AgreementSession

open AgreementStep

variable {table : FeatureTable} {filter : FeatureFilter} {features : List ResolvedFeature}
  {steps : List AgreementStep} {position : Position}

/--
The reading belongs to all classes of a selection that is requested and that all words so far have.
-/
def Joins (table : FeatureTable) (filter : FeatureFilter) (steps : List AgreementStep)
    (position : Position) (reading : Reading) : Prop :=
  ∃ selection : ClassSelection, selection.IsRequested table filter ∧
    AllRealize steps selection ∧ selection.IsRealizedBy position reading

/-- A word that is added with all its readings has the classes of any of them. -/
theorem realizes_add_iff (index : Nat) {selection : ClassSelection} :
    (AgreementStep.add index position).Realizes selection ↔
      ∃ reading ∈ position.readings, selection.IsRealizedBy position reading :=
  exists_mem_readings_add_iff fun reading => selection.IsRealizedBy position reading

theorem allRealize_add_iff {index : Nat} {selection : ClassSelection} :
    AllRealize (steps ++ [.add index position]) selection ↔
      AllRealize steps selection ∧
        ∃ reading ∈ position.readings, selection.IsRealizedBy position reading := by
  have limits : (AgreementStep.add index position).neutral = false := rfl
  rw [← realizes_add_iff index]
  simp only [AllRealize, List.forall_mem_append, List.forall_mem_singleton, limits, true_imp_iff]

theorem add_run (features : List ResolvedFeature) (steps : List AgreementStep) (index : Nat)
    (position : Position) :
    ((opened features).run steps).add index position =
      (opened features).run (steps ++ [.add index position]) := by
  rw [run_concat]
  rfl

theorem run_candidateClasses (features : List ResolvedFeature) (steps : List AgreementStep)
    (position : Position) :
    ((opened features).run steps).candidateClasses position =
      features.map fun feature => (feature.name, feature.candidates position) := by
  rw [candidateClasses, run_features]
  rfl

/-- The words agree with one more if a reading of it joins them. -/
theorem isUnified_add_iff (answers : List.Forall₂ (ResolvedFeature.Answers table) filter features)
    (steps : List AgreementStep) (index : Nat) :
    (((opened features).run steps).add index position).isUnified = true ↔
      ∃ reading ∈ position.readings, Joins table filter steps position reading := by
  rw [add_run, isUnified_run_iff_exists_isRequested answers]
  simp only [allRealize_add_iff, Joins]
  constructor
  · rintro ⟨selection, requested, realize, reading, member, realized⟩
    exact ⟨reading, member, selection, requested, realize, realized⟩
  · rintro ⟨reading, member, selection, requested, realize, realized⟩
    exact ⟨selection, requested, realize, reading, member, realized⟩

theorem isKept_add_iff (answers : List.Forall₂ (ResolvedFeature.Answers table) filter features)
    {index : Nat} {entry : Nat × Reading} (standing : entry.2 ∈ position.readings) :
    IsKept features (steps ++ [.add index position]) (.add index position) entry ↔
      Joins table filter steps position entry.2 := by
  have limits : (AgreementStep.add index position).neutral = false := rfl
  simp only [IsKept, IsShared, limits, Bool.false_eq_true, false_or, allRealize_add_iff,
    ClassSelection.isFrom_iff_isRequested answers]
  constructor
  · rintro ⟨selection, ⟨requested, realize, -⟩, realized⟩
    exact ⟨selection, requested, realize, realized⟩
  · rintro ⟨selection, requested, realize, realized⟩
    exact ⟨selection, ⟨requested, realize, entry.2, standing, realized⟩, realized⟩

/-- A word that is added is left with those of its readings that join the words so far. -/
theorem agreedWords_add (answers : List.Forall₂ (ResolvedFeature.Answers table) filter features)
    (steps : List AgreementStep) (index : Nat) (position : Position) :
    ∃ others word, (((opened features).run steps).add index position).agreedWords =
        others ++ [word] ∧ word.position = index ∧
      ∀ reading, reading ∈ word.readings.map (·.reading) ↔
        reading ∈ position.readings ∧ Joins table filter steps position reading := by
  classical
  rw [add_run, agreedWords_run, List.map_append, List.map_singleton]
  refine ⟨_, _, rfl, rfl, fun reading => ?_⟩
  calc reading ∈ List.map _ (List.map _ _)
      ↔ ∃ entry ∈ (AgreementStep.add index position).readings,
          IsKept features (steps ++ [.add index position]) (.add index position) entry ∧
            entry.2 = reading := by
        rw [List.map_map, List.mem_map]
        simp only [List.mem_filter, decide_eq_true_eq, and_assoc]
        rfl
    _ ↔ ∃ entry ∈ (AgreementStep.add index position).readings,
          Joins table filter steps position entry.2 ∧ entry.2 = reading := by
        refine exists_congr fun entry => and_congr_right fun member => and_congr_left fun _ => ?_
        have found := (mem_readings_iff.mp member).2
        exact isKept_add_iff answers (List.mem_of_getElem? found)
    _ ↔ ∃ other ∈ position.readings,
          Joins table filter steps position other ∧ other = reading :=
        exists_mem_readings_add_iff fun other =>
          Joins table filter steps position other ∧ other = reading
    _ ↔ reading ∈ position.readings ∧ Joins table filter steps position reading := by
        simp only [← and_assoc, exists_eq_right]

/--
What counts for a session is which readings belong to the classes, each by itself.  After any run,
the candidates of a feature are the requested classes that some reading of the position belongs to;
the position could agree just if one of its readings joins the words so far; and if it is added, the
words agree just if one does, and the word is left with those that do.  The readings that belong to
the class of a slot are those with which alone the word fills the core of the slot.
-/
theorem run_decides_by_readings (defined : table.Defined) {session : AgreementSession}
    (started : start table filter = .ok session) (steps : List AgreementStep)
    (position : Position) :
    List.Forall₂
        (fun request candidates => candidates.1 = request.1 ∧
          ∀ name, name ∈ candidates.2 ↔ ∃ slot, table.IsRequested request (name, slot) ∧
            ∃ reading ∈ position.readings, slot.acceptsReading reading position = true)
        filter ((session.run steps).candidateClasses position) ∧
      ((session.run steps).isSatisfiedBy position = true ↔
        ∃ reading ∈ position.readings, Joins table filter steps position reading) ∧
      (∀ index,
        (((session.run steps).add index position).isUnified = true ↔
          ∃ reading ∈ position.readings, Joins table filter steps position reading) ∧
        ∃ others word, ((session.run steps).add index position).agreedWords = others ++ [word] ∧
          word.position = index ∧
            ∀ reading, reading ∈ word.readings.map (·.reading) ↔
              reading ∈ position.readings ∧ Joins table filter steps position reading) ∧
      ∀ (slot : Slot) (reading : Reading),
        slot.acceptsReading reading position = slot.core.accepts (position.only reading) := by
  obtain ⟨features, resolved, rfl⟩ := start_eq_ok_iff.mp started
  have answers := defined.wellFormed.resolve resolved
  refine ⟨?candidates, ?asked, fun index => ⟨?unified, ?left⟩,
    fun slot reading => slot.acceptsReading_eq_core_accepts reading position⟩
  case candidates =>
      rw [run_candidateClasses, List.forall₂_map_right_iff]
      refine List.Forall₂.mp ?_ (FeatureTable.names_of_resolve resolved) answers
      intro request feature name_eq answer
      refine ⟨name_eq, fun name => ?_⟩
      rw [ResolvedFeature.mem_candidates_iff]
      simp only [answer.mem_iff]
  case asked =>
      rw [isSatisfiedBy_eq_isUnified_add _ 0]
      exact isUnified_add_iff answers steps 0
  case unified => exact isUnified_add_iff answers steps index
  case left => exact agreedWords_add answers steps index position

/-- A noun that may be plural or singular joins a singular article by its singular reading. -/
theorem run_decides_by_readings_of_crisis :
    ∃ (table : FeatureTable) (session : AgreementSession), table.Defined ∧
      start table [("number", [])] = .ok session ∧
      let article := (Position.ofWord "la" 0).addReading (.tagged "la" "el" "sg")
      let plural : Reading := .tagged "crisis" "crisis" "pl"
      let singular : Reading := .tagged "crisis" "crisis" "sg"
      let noun := ((Position.ofWord "crisis" 3).addReading plural).addReading singular
      (session.run [.add 1 article]).candidateClasses noun = [("number", ["pl", "sg"])] ∧
        (session.run [.add 1 article]).isSatisfiedBy noun = true ∧
          (∃ reading ∈ noun.readings,
            Joins table [("number", [])] [.add 1 article] noun reading) ∧
          ∃ slot, (SlotSpec.tagged "sg").compile = .ok slot ∧
            slot.acceptsReading singular noun = slot.core.accepts (noun.only singular) := by
  have defined : FeatureTable.Defined _ :=
    .define (.define .empty (rfl : FeatureTable.define [] "number" "sg" (.tagged "sg") = .ok _))
      (rfl : FeatureTable.define _ "number" "pl" (.tagged "pl") = .ok _)
  refine ⟨_, _, defined, rfl, ?_⟩
  intro article plural singular noun
  have decided := run_decides_by_readings defined
    (rfl : start _ [("number", [])] = .ok _) [.add 1 article] noun
  refine ⟨?_, ?satisfied, decided.2.1.mp ?satisfied, _, rfl, decided.2.2.2 _ singular⟩
  · decide +kernel
  · decide +kernel

/--
A conjunct, an alternative, an exception and a chunk of the slot that defines a class do not count:
the reading belongs to the class and does not alone fill the slot, or the other way round.
-/
theorem exists_member_unsatisfied :
    let reading : Reading := .tagged "casa" "casa" "sg"
    let position : Position := { Position.ofWord "casa" 0 with readings := [reading] }
    ∀ entry ∈ [
        (SlotSpec.tagged "sg" |>.and (.word "perro"), true),
        (SlotSpec.tagged "pl" |>.or (.word "casa"), false),
        (SlotSpec.tagged "sg" |>.except .current (.word "casa"), true),
        (SlotSpec.anyWord.withChunk "NP", true)],
      ∃ slot table session, entry.1.compile = .ok slot ∧
        FeatureTable.define [] "number" "sg" entry.1 = .ok table ∧
        start table [("number", [])] = .ok session ∧
          session.candidateClasses position = [("number", if entry.2 then ["sg"] else [])] ∧
          session.isSatisfiedBy position = entry.2 ∧
          (session.add 1 position).isUnified = entry.2 ∧
            slot.accepts (position.only reading) = !entry.2 := by
  intro reading position
  simp only [List.forall_mem_cons, List.not_mem_nil, false_imp_iff, implies_true, and_true]
  exact ⟨⟨_, _, _, rfl, rfl, rfl, by decide +kernel⟩, ⟨_, _, _, rfl, rfl, rfl, by decide +kernel⟩,
    ⟨_, _, _, rfl, rfl, rfl, by decide +kernel⟩, ⟨_, _, _, rfl, rfl, rfl, by decide +kernel⟩⟩

end AgreementSession

end PhraseRules
