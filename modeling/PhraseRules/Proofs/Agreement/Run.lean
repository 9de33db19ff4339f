import Mathlib.Data.List.Induction
import PhraseRules.Proofs.Agreement.Selection

/-!
# Runs of a session

Words are added to a session one after the other.  The main statement is what a session is worth
after any such run: the words agree exactly if one requested class of every feature can be selected
that all of them have, and the readings that are left of a word are those that realize such a
selection.  Neither depends on the order in which the words were added.

The invariant is `AgreementStep.AgreedHolds`: the choices that a session keeps are those that all
words so far realize.
-/

namespace PhraseRules

/-- A word that is added to a session. -/
inductive AgreementStep where
  /-- A word with all its readings. -/
  | add (index : Nat) (position : Position)
  /-- A word with the readings that have the given numbers. -/
  | addBound (index : Nat) (position : Position) (numbers : List Nat)
  | addNeutral (index : Nat) (position : Position)

namespace AgreementStep

/-- Where the word stands. -/
def index : AgreementStep → Nat
  | add index _ | addBound index _ _ | addNeutral index _ => index

def position : AgreementStep → Position
  | add _ position | addBound _ position _ | addNeutral _ position => position

/-- Whether the word neither limits the others nor is limited by them. -/
def neutral : AgreementStep → Bool
  | add _ _ | addBound _ _ _ => false
  | addNeutral _ _ => true

/-- The numbers of the readings with which the word is added; there may be none for some. -/
def numbers : AgreementStep → List Nat
  | add _ position | addNeutral _ position => List.range position.readings.length
  | addBound _ _ numbers => numbers

/-- The readings with which the word is added, with their numbers. -/
def readings (step : AgreementStep) : List (Nat × Reading) :=
  step.numbers.filterMap fun number =>
    step.position.readings[number]?.map fun reading => (number, reading)

theorem mem_readings_iff {step : AgreementStep} {entry : Nat × Reading} :
    entry ∈ step.readings ↔
      entry.1 ∈ step.numbers ∧ step.position.readings[entry.1]? = some entry.2 := by
  rw [readings, List.mem_filterMap]
  constructor
  · rintro ⟨number, member, paired⟩
    rcases Option.map_eq_some_iff.mp paired with ⟨reading, found, rfl⟩
    exact ⟨member, found⟩
  · rintro ⟨member, found⟩
    exact ⟨entry.1, member, by rw [found]; rfl⟩

/-- Some reading with which the word is added belongs to all the classes. -/
def Realizes (step : AgreementStep) (selection : ClassSelection) : Prop :=
  ∃ entry ∈ step.readings, selection.IsRealizedBy step.position entry.2

/-- All words that are not neutral have all the classes. -/
def AllRealize (steps : List AgreementStep) (selection : ClassSelection) : Prop :=
  ∀ step ∈ steps, step.neutral = false → step.Realizes selection

theorem AllRealize.perm {steps others : List AgreementStep} (perm : steps.Perm others)
    (selection : ClassSelection) : AllRealize steps selection ↔ AllRealize others selection := by
  simp only [AllRealize, perm.mem_iff]

end AgreementStep

namespace AgreementSession

/-- The session with a word added. -/
def perform (session : AgreementSession) : AgreementStep → AgreementSession
  | .add index position => session.add index position
  | .addBound index position numbers => session.addBound index position numbers
  | .addNeutral index position => session.addNeutral index position

/-- The session with several words added in order. -/
def run (session : AgreementSession) (steps : List AgreementStep) : AgreementSession :=
  steps.foldl perform session

@[simp]
theorem run_nil (session : AgreementSession) : session.run [] = session :=
  rfl

@[simp]
theorem run_concat (session : AgreementSession) (steps : List AgreementStep)
    (step : AgreementStep) :
    session.run (steps ++ [step]) = (session.run steps).perform step :=
  List.foldl_concat perform session step steps

theorem run_append (session : AgreementSession) (first second : List AgreementStep) :
    session.run (first ++ second) = (session.run first).run second :=
  List.foldl_append

end AgreementSession

/-! ## What one step does -/

namespace AgreementStep

/-- A reading of the word, with the choices that it realizes. -/
def realized (features : List ResolvedFeature) (step : AgreementStep) (entry : Nat × Reading) :
    RealizedReading :=
  ⟨entry.1, entry.2, if step.neutral then [] else choicesOf step.position entry.2 features⟩

/-- The word as a session keeps it. -/
def word (features : List ResolvedFeature) (step : AgreementStep) : CommittedWord :=
  ⟨step.index, step.neutral, step.readings.map (step.realized features)⟩

/-- Some reading with which the word is added realizes the choice. -/
def RealizesChoice (features : List ResolvedFeature) (step : AgreementStep)
    (choice : ClassChoice) : Prop :=
  ∃ entry ∈ step.readings, choice ∈ choicesOf step.position entry.2 features

theorem realizesChoice_iff {features : List ResolvedFeature} {choice : ClassChoice}
    {selection : ClassSelection} (selected : choice.selection? features = some selection)
    (step : AgreementStep) : step.RealizesChoice features choice ↔ step.Realizes selection := by
  rw [RealizesChoice, Realizes]
  simp only [mem_choicesOf_of_selection? selected]

end AgreementStep

/-- Looking up every number of a list gives the list with its numbers. -/
theorem filterMap_range_getElem? {α β : Type} (pair : Nat → α → β) (elements : List α) :
    (List.range elements.length).filterMap (fun number => elements[number]?.map (pair number)) =
      elements.mapIdx pair := by
  induction elements using List.reverseRecOn with
  | nil => rfl
  | append_singleton earlier last induction =>
      have earlierNumbers :
          (List.range earlier.length).filterMap
              (fun number => (earlier ++ [last])[number]?.map (pair number)) =
            (List.range earlier.length).filterMap
              (fun number => earlier[number]?.map (pair number)) := by
        apply List.filterMap_congr
        intro number member
        rw [List.getElem?_append_left (List.mem_range.mp member)]
      rw [List.length_append, List.length_singleton, List.range_succ, List.filterMap_append,
        earlierNumbers, induction, List.mapIdx_concat]
      simp

namespace AgreementSession

variable {session : AgreementSession} {step : AgreementStep}

@[simp]
theorem perform_features : (session.perform step).features = session.features := by
  cases step <;> rfl

theorem realize_eq (session : AgreementSession) (position : Position) (numbers : List Nat) :
    session.realize position numbers =
      (numbers.filterMap fun number =>
        position.readings[number]?.map fun reading => (number, reading)).map fun entry =>
          ⟨entry.1, entry.2, choicesOf position entry.2 session.features⟩ := by
  rw [List.map_filterMap, realize]
  congr 1
  funext number
  cases position.readings[number]? <;> rfl

theorem perform_committed :
    (session.perform step).committed = session.committed ++ [step.word session.features] := by
  cases step with
  | add index position =>
      show session.committed ++ [⟨index, false, session.realize position _⟩] = _
      rw [realize_eq]
      rfl
  | addBound index position numbers =>
      show session.committed ++ [⟨index, false, session.realize position numbers⟩] = _
      rw [realize_eq]
      rfl
  | addNeutral index position =>
      show session.committed ++ [⟨index, true, _⟩] =
        session.committed ++ [⟨index, true, List.map _ (List.filterMap _ _)⟩]
      rw [← filterMap_range_getElem?, List.map_filterMap]
      congr 4
      funext number
      show _ = Option.map _ (Option.map _ position.readings[number]?)
      cases position.readings[number]? <;> rfl

theorem perform_agreed_of_neutral (neutral : step.neutral = true) :
    (session.perform step).agreed = session.agreed := by
  cases step with
  | add index position => cases neutral
  | addBound index position numbers => cases neutral
  | addNeutral index position => rfl

/-- A word that is not neutral leaves the choices that it realizes. -/
theorem perform_agreed (session : AgreementSession) (limits : step.neutral = false) :
    ∃ agreed, (session.perform step).agreed = some agreed ∧
      ∀ choice, choice ∈ agreed ↔
        (∀ before, session.agreed = some before → choice ∈ before) ∧
          step.RealizesChoice session.features choice := by
  have mem_union (position : Position) (numbers : List Nat) (index : Nat) (choice : ClassChoice) :
      choice ∈ (session.realize position numbers).flatMap (·.choices) ↔
        (AgreementStep.addBound index position numbers).RealizesChoice session.features choice := by
    rw [realize_eq, List.mem_flatMap]
    constructor
    · rintro ⟨realized, member, realizes⟩
      rcases List.mem_map.mp member with ⟨entry, entryMember, rfl⟩
      exact ⟨entry, entryMember, realizes⟩
    · rintro ⟨entry, entryMember, realizes⟩
      exact ⟨_, List.mem_map.mpr ⟨entry, entryMember, rfl⟩, realizes⟩
  have bound (index : Nat) (position : Position) (numbers : List Nat) :
      ∃ agreed, (session.addBound index position numbers).agreed = some agreed ∧
        ∀ choice, choice ∈ agreed ↔
          (∀ before, session.agreed = some before → choice ∈ before) ∧
            (AgreementStep.addBound index position numbers).RealizesChoice
              session.features choice := by
    refine ⟨_, rfl, fun choice => ?_⟩
    rw [← mem_union]
    cases session.agreed with
    | none => simp
    | some before => simp
  cases step with
  | add index position => exact bound index position _
  | addBound index position numbers => exact bound index position numbers
  | addNeutral index position => cases limits

end AgreementSession

/-! ## What a run does -/

/--
The choices that a session keeps are those that all words realize; it keeps none as long as all
words are neutral.
-/
def AgreementStep.AgreedHolds (features : List ResolvedFeature) (steps : List AgreementStep) :
    Option (List ClassChoice) → Prop
  | none => ∀ step ∈ steps, step.neutral = true
  | some agreed =>
      (∃ step ∈ steps, step.neutral = false) ∧
        ∀ choice, choice ∈ agreed ↔
          ∀ step ∈ steps, step.neutral = false → step.RealizesChoice features choice

namespace AgreementSession

open AgreementStep

/-- One word keeps the invariant. -/
theorem agreedHolds_perform {session : AgreementSession} {steps : List AgreementStep}
    (holds : AgreedHolds session.features steps session.agreed) (step : AgreementStep) :
    AgreedHolds session.features (steps ++ [step]) (session.perform step).agreed := by
  cases limits : step.neutral with
  | true =>
      rw [perform_agreed_of_neutral limits]
      cases agreed_eq : session.agreed with
      | none =>
          rw [agreed_eq] at holds
          intro other member
          rcases List.mem_append.mp member with member | member
          · exact holds other member
          · rw [List.mem_singleton.mp member, limits]
      | some agreed =>
          rw [agreed_eq] at holds
          rcases holds with ⟨⟨first, firstMember, firstLimits⟩, mem_iff⟩
          refine ⟨⟨first, List.mem_append_left _ firstMember, firstLimits⟩, fun choice => ?_⟩
          rw [mem_iff]
          simp [or_imp, forall_and, limits]
  | false =>
      rcases perform_agreed session limits with ⟨agreed, performed, mem_iff⟩
      rw [performed]
      refine ⟨⟨step, List.mem_append_right _ (List.mem_singleton_self step), limits⟩,
        fun choice => ?_⟩
      have before_iff :
          (∀ before, session.agreed = some before → choice ∈ before) ↔
            ∀ other ∈ steps, other.neutral = false →
              other.RealizesChoice session.features choice := by
        cases agreed_eq : session.agreed with
        | none =>
            rw [agreed_eq] at holds
            constructor
            · intro _ other member otherLimits
              rw [holds other member] at otherLimits
              cases otherLimits
            · intro _ before absent
              cases absent
        | some before =>
            rw [agreed_eq] at holds
            rw [← holds.2]
            simp
      rw [mem_iff, before_iff]
      simp [or_imp, forall_and, limits]

/-- The session without words for the given features. -/
def opened (features : List ResolvedFeature) : AgreementSession :=
  ⟨features, [], none⟩

@[simp]
theorem run_features (session : AgreementSession) (steps : List AgreementStep) :
    (session.run steps).features = session.features := by
  induction steps using List.reverseRecOn with
  | nil => rfl
  | append_singleton earlier last induction => rw [run_concat, perform_features, induction]

/-- A run keeps the invariant. -/
theorem agreedHolds_run (features : List ResolvedFeature) (steps : List AgreementStep) :
    AgreedHolds features steps ((opened features).run steps).agreed := by
  induction steps using List.reverseRecOn with
  | nil => intro step member; cases member
  | append_singleton earlier last induction =>
      rw [run_concat]
      have holds : AgreedHolds _ (earlier ++ [last])
          (((opened features).run earlier).perform last).agreed :=
        agreedHolds_perform (by rw [run_features]; exact induction) last
      rwa [run_features] at holds

/-- A run keeps its words in order. -/
theorem committed_run (features : List ResolvedFeature) (steps : List AgreementStep) :
    ((opened features).run steps).committed = steps.map (word features) := by
  induction steps using List.reverseRecOn with
  | nil => rfl
  | append_singleton earlier last induction =>
      rw [run_concat, perform_committed, induction, run_features, List.map_append]
      rfl

/-! ## Agreement after a run -/

/-- The words have a selection of the classes in common. -/
def IsShared (features : List ResolvedFeature) (steps : List AgreementStep)
    (selection : ClassSelection) : Prop :=
  selection.IsFrom features ∧ AllRealize steps selection

theorem exists_choice_iff_exists_isShared {features : List ResolvedFeature}
    {steps : List AgreementStep} (limited : ∃ step ∈ steps, step.neutral = false) :
    (∃ choice, ∀ step ∈ steps, step.neutral = false → step.RealizesChoice features choice) ↔
      ∃ selection, IsShared features steps selection := by
  constructor
  · rintro ⟨choice, realized⟩
    rcases limited with ⟨first, member, limits⟩
    rcases realized first member limits with ⟨entry, -, chosen⟩
    rcases mem_choicesOf_iff.mp chosen with ⟨selection, selected, -⟩
    refine ⟨selection, ClassChoice.isFrom_of_selection? selected, ?_⟩
    intro step stepMember stepLimits
    exact (realizesChoice_iff selected step).mp (realized step stepMember stepLimits)
  · rintro ⟨selection, isFrom, allRealize⟩
    rcases ClassChoice.exists_selection?_eq isFrom with ⟨choice, selected⟩
    refine ⟨choice, fun step member limits => ?_⟩
    exact (realizesChoice_iff selected step).mpr (allRealize step member limits)

/-- The words of a run agree if they are all neutral or have a selection in common. -/
theorem isUnified_run_iff (features : List ResolvedFeature) (steps : List AgreementStep) :
    ((opened features).run steps).isUnified = true ↔
      (∀ step ∈ steps, step.neutral = true) ∨
        ∃ selection, IsShared features steps selection := by
  have holds := agreedHolds_run features steps
  rw [isUnified]
  cases agreed_eq : ((opened features).run steps).agreed with
  | none =>
      rw [agreed_eq] at holds
      simp only [true_iff]
      exact Or.inl holds
  | some agreed =>
      rw [agreed_eq] at holds
      rcases holds with ⟨limited, mem_iff⟩
      have notAllNeutral : ¬∀ step ∈ steps, step.neutral = true := by
        intro neutral
        rcases limited with ⟨step, member, limits⟩
        rw [neutral step member] at limits
        cases limits
      rw [or_iff_right notAllNeutral, ← exists_choice_iff_exists_isShared limited]
      simp only [← mem_iff, Bool.not_eq_true', List.isEmpty_eq_false_iff_exists_mem]

/-- A reading is left if its word is neutral or it belongs to classes that all words have. -/
def IsKept (features : List ResolvedFeature) (steps : List AgreementStep) (step : AgreementStep)
    (entry : Nat × Reading) : Prop :=
  step.neutral = true ∨
    ∃ selection, IsShared features steps selection ∧
      selection.IsRealizedBy step.position entry.2

theorem survives_run_iff {features : List ResolvedFeature} {steps : List AgreementStep}
    {step : AgreementStep} (member : step ∈ steps) (entry : Nat × Reading) :
    (step.neutral || ((opened features).run steps).survives (step.realized features entry)) =
        true ↔
      IsKept features steps step entry := by
  rw [IsKept, Bool.or_eq_true]
  cases limits : step.neutral with
  | true => simp
  | false =>
      have holds := agreedHolds_run features steps
      simp only [Bool.false_eq_true, false_or]
      rw [survives]
      cases agreed_eq : ((opened features).run steps).agreed with
      | none =>
          rw [agreed_eq] at holds
          rw [holds step member] at limits
          cases limits
      | some agreed =>
          rw [agreed_eq] at holds
          rcases holds with ⟨-, mem_iff⟩
          have choices_eq :
              (step.realized features entry).choices =
                choicesOf step.position entry.2 features := by
            rw [realized, limits]
            rfl
          simp only [choices_eq, List.any_eq_true, List.contains_iff_mem, mem_iff]
          constructor
          · rintro ⟨choice, chosen, realized⟩
            rcases mem_choicesOf_iff.mp chosen with ⟨selection, selected, isRealized⟩
            refine ⟨selection, ⟨ClassChoice.isFrom_of_selection? selected, ?_⟩, isRealized⟩
            intro other otherMember otherLimits
            exact (realizesChoice_iff selected other).mp (realized other otherMember otherLimits)
          · rintro ⟨selection, ⟨isFrom, allRealize⟩, isRealized⟩
            rcases ClassChoice.exists_selection?_eq isFrom with ⟨choice, selected⟩
            refine ⟨choice, (mem_choicesOf_of_selection? selected _ _).mpr isRealized, ?_⟩
            intro other otherMember otherLimits
            exact (realizesChoice_iff selected other).mpr
              (allRealize other otherMember otherLimits)

open scoped Classical in
/-- After a run each word is left, in order, with the readings that are kept. -/
theorem agreedWords_run (features : List ResolvedFeature) (steps : List AgreementStep) :
    ((opened features).run steps).agreedWords =
      steps.map fun step =>
        ⟨step.index,
          (step.readings.filter fun entry => decide (IsKept features steps step entry)).map
            (step.realized features)⟩ := by
  rw [agreedWords, committed_run, List.map_map]
  apply List.map_congr_left
  intro step member
  show AgreedWord.mk step.index ((step.readings.map (step.realized features)).filter _) = _
  rw [List.filter_map]
  congr 2
  apply List.filter_congr
  intro entry _
  rw [Bool.eq_iff_iff, decide_eq_true_eq]
  exact survives_run_iff member entry

theorem isShared_perm {features : List ResolvedFeature} {steps others : List AgreementStep}
    (perm : steps.Perm others) (selection : ClassSelection) :
    IsShared features steps selection ↔ IsShared features others selection := by
  rw [IsShared, IsShared, AllRealize.perm perm]

theorem isUnified_run_perm (features : List ResolvedFeature) {steps others : List AgreementStep}
    (perm : steps.Perm others) :
    ((opened features).run steps).isUnified = ((opened features).run others).isUnified := by
  rw [Bool.eq_iff_iff, isUnified_run_iff, isUnified_run_iff]
  simp only [perm.mem_iff, isShared_perm perm]

theorem agreedWords_run_perm (features : List ResolvedFeature)
    {steps others : List AgreementStep} (perm : steps.Perm others) :
    ((opened features).run steps).agreedWords.Perm ((opened features).run others).agreedWords := by
  have sameKept : IsKept features steps = IsKept features others := by
    funext step entry
    simp only [IsKept, isShared_perm perm]
  rw [agreedWords_run, agreedWords_run, sameKept]
  exact perm.map _

/-! ## Sessions that a table opens -/

open FeatureTable in
theorem start_eq_ok_iff {table : FeatureTable} {filter : FeatureFilter}
    {session : AgreementSession} :
    start table filter = .ok session ↔
      ∃ features, table.resolve filter = .ok features ∧ session = opened features := by
  rw [start, Outcome.bind_eq_ok_iff]
  constructor
  · rintro ⟨features, resolved, session_eq⟩
    exact ⟨features, resolved, (Except.ok.inj session_eq).symm⟩
  · rintro ⟨features, resolved, rfl⟩
    exact ⟨features, resolved, rfl⟩

/-- The words of a run agree if requested classes can be selected that all of them have. -/
theorem isUnified_run_iff_exists_isRequested {table : FeatureTable} {filter : FeatureFilter}
    {features : List ResolvedFeature}
    (answers : List.Forall₂ (ResolvedFeature.Answers table) filter features)
    (steps : List AgreementStep) :
    ((opened features).run steps).isUnified = true ↔
      ∃ selection : ClassSelection, selection.IsRequested table filter ∧
        AllRealize steps selection := by
  rw [isUnified_run_iff]
  simp only [IsShared, ClassSelection.isFrom_iff_isRequested answers]
  constructor
  · rintro (allNeutral | shared)
    · -- without limits any selection will do
      rcases ClassSelection.exists_isFrom answers with ⟨selection, isFrom⟩
      refine ⟨selection, (ClassSelection.isFrom_iff_isRequested answers selection).mp isFrom,
        fun step member limits => ?_⟩
      rw [allNeutral step member] at limits
      cases limits
    · exact shared
  · exact Or.inr

open scoped Classical in
/--
What a session is worth after any run.  The words agree exactly if one requested class can be
selected for each feature of the filter such that every word that is not neutral has a reading,
among those with which it was added, that belongs to all of them.  The words are left in their
order, a neutral one with all its readings and any other with those of its readings that belong to
all classes of such a selection.  The order of the run changes nothing of this.
-/
theorem run_agreement {table : FeatureTable} (defined : table.Defined) {filter : FeatureFilter}
    {session : AgreementSession} (started : start table filter = .ok session)
    (steps : List AgreementStep) :
    ((session.run steps).isUnified = true ↔
        ∃ selection : ClassSelection, selection.IsRequested table filter ∧
          AllRealize steps selection) ∧
      (session.run steps).agreedWords.map
          (fun word => (word.position, word.readings.map fun kept => (kept.index, kept.reading))) =
        steps.map (fun step => (step.index, step.readings.filter fun entry => decide
          (step.neutral = true ∨ ∃ selection : ClassSelection,
            (selection.IsRequested table filter ∧ AllRealize steps selection) ∧
              selection.IsRealizedBy step.position entry.2))) ∧
      ∀ others, steps.Perm others →
        (session.run others).isUnified = (session.run steps).isUnified ∧
          (session.run others).agreedWords.Perm (session.run steps).agreedWords := by
  rcases start_eq_ok_iff.mp started with ⟨features, resolved, rfl⟩
  have answers := defined.wellFormed.resolve resolved
  have isFrom_iff := ClassSelection.isFrom_iff_isRequested answers
  refine ⟨isUnified_run_iff_exists_isRequested answers steps, ?_, ?_⟩
  · rw [agreedWords_run, List.map_map]
    apply List.map_congr_left
    intro step _
    simp only [Function.comp_def, List.map_map, IsKept, IsShared, isFrom_iff, realized]
    rw [List.map_id']
  · intro others perm
    exact ⟨isUnified_run_perm features perm.symm, agreedWords_run_perm features perm.symm⟩

/-- An article, a comma and a noun that may be singular or plural have their number in common. -/
theorem run_agreement_of_number :
    ∃ (table : FeatureTable) (session : AgreementSession), table.Defined ∧
      start table [("number", [])] = .ok session ∧
      ∃ selection : ClassSelection, selection.IsRequested table [("number", [])] ∧
        AllRealize
          [.add 1 ((Position.ofWord "la" 0).addReading (.tagged "la" "el" "sg")),
            .addNeutral 2 (Position.ofWord "," 2),
            .addBound 3 (((Position.ofWord "crisis" 4).addReading
              (.tagged "crisis" "crisis" "pl")).addReading
                (.tagged "crisis" "crisis" "sg")) [1, 7]]
          selection := by
  have defined : FeatureTable.Defined _ :=
    .define (.define .empty (rfl : FeatureTable.define [] "number" "sg" (.tagged "sg") = .ok _))
      (rfl : FeatureTable.define _ "number" "pl" (.tagged "pl") = .ok _)
  exact ⟨_, _, defined, rfl, (run_agreement defined rfl _).1.mp rfl⟩

end AgreementSession

end PhraseRules
