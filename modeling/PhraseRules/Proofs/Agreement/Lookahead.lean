import PhraseRules.Proofs.Agreement.Run

/-!
# Asking ahead

A session can be asked whether a word could agree with those so far, without adding the word.  The
answer is the one that adding the word would give, and words that cannot agree any more do not come
to agree by further ones.  Both follow from the choices that a session still permits: adding a word
only takes some of them away.
-/

namespace PhraseRules.AgreementSession

variable {session : AgreementSession} {step : AgreementStep} {position : Position}
  {choice : ClassChoice}

/-- All words so far that are not neutral realize the choice. -/
def Permits (session : AgreementSession) (choice : ClassChoice) : Prop :=
  ∀ agreed, session.agreed = some agreed → choice ∈ agreed

/-- The words agree if a choice is permitted; before any limiting word all choices are. -/
theorem isUnified_iff_exists_permits :
    session.isUnified = true ↔ ∃ choice, session.Permits choice := by
  simp only [isUnified, Permits]
  cases session.agreed with
  | none => simp
  | some agreed =>
      simp only [Option.some.injEq, forall_eq', Bool.not_eq_true']
      exact List.isEmpty_eq_false_iff_exists_mem

theorem permits_perform_of_neutral (neutral : step.neutral = true) :
    (session.perform step).Permits choice ↔ session.Permits choice := by
  rw [Permits, Permits, perform_agreed_of_neutral neutral]

theorem permits_perform (limits : step.neutral = false) :
    (session.perform step).Permits choice ↔
      session.Permits choice ∧ step.RealizesChoice session.features choice := by
  obtain ⟨agreed, performed, mem_iff⟩ := perform_agreed session limits
  rw [Permits, performed]
  simp only [Option.some.injEq, forall_eq', mem_iff, Permits]

/-! ## The answer beforehand -/

/-- A word that is added with all its readings is added with just the readings that it has. -/
theorem exists_mem_readings_add_iff {index : Nat} (holds : Reading → Prop) :
    (∃ entry ∈ (AgreementStep.add index position).readings, holds entry.2) ↔
      ∃ reading ∈ position.readings, holds reading := by
  simp only [AgreementStep.mem_readings_iff]
  constructor
  · rintro ⟨entry, ⟨-, found⟩, holdsOf⟩
    exact ⟨entry.2, List.mem_of_getElem? found, holdsOf⟩
  · rintro ⟨reading, member, holdsOf⟩
    obtain ⟨number, found⟩ := List.getElem?_of_mem member
    have inRange : number < position.readings.length := (List.getElem?_eq_some_iff.mp found).1
    exact ⟨(number, reading), ⟨List.mem_range.mpr inRange, found⟩, holdsOf⟩

theorem isSatisfiedBy_iff :
    session.isSatisfiedBy position = true ↔
      ∃ reading ∈ position.readings, ∃ choice ∈ choicesOf position reading session.features,
        session.Permits choice := by
  rw [isSatisfiedBy, List.any_eq_true]
  refine exists_congr fun reading => and_congr_right fun _ => ?_
  simp only [Permits, choices]
  cases session.agreed with
  | none => simp [List.eq_nil_iff_forall_not_mem]
  | some agreed => simp

theorem realizesChoice_add_iff {features : List ResolvedFeature} {index : Nat} :
    (AgreementStep.add index position).RealizesChoice features choice ↔
      ∃ reading ∈ position.readings, choice ∈ choicesOf position reading features :=
  exists_mem_readings_add_iff fun reading => choice ∈ choicesOf position reading features

/-- A word is said to be able to agree just if the words agree once it is added. -/
theorem isSatisfiedBy_eq_isUnified_add (session : AgreementSession) (index : Nat)
    (position : Position) :
    session.isSatisfiedBy position = (session.add index position).isUnified := by
  have limits : (AgreementStep.add index position).neutral = false := rfl
  rw [Bool.eq_iff_iff]
  calc session.isSatisfiedBy position = true
      ↔ ∃ choice, session.Permits choice ∧
          (AgreementStep.add index position).RealizesChoice session.features choice := by
        rw [isSatisfiedBy_iff]
        simp only [realizesChoice_add_iff]
        constructor
        · rintro ⟨reading, member, choice, realizes, permits⟩
          exact ⟨choice, permits, reading, member, realizes⟩
        · rintro ⟨choice, permits, reading, member, realizes⟩
          exact ⟨reading, member, choice, realizes, permits⟩
    _ ↔ ∃ choice, (session.perform (.add index position)).Permits choice := by
        simp only [permits_perform limits]
    _ ↔ (session.add index position).isUnified = true :=
        isUnified_iff_exists_permits.symm

/-! ## Words that can no longer agree -/

/-- A word takes choices away and adds none. -/
theorem Permits.of_perform (permits : (session.perform step).Permits choice) :
    session.Permits choice := by
  cases limits : step.neutral with
  | true => exact (permits_perform_of_neutral limits).mp permits
  | false => exact ((permits_perform limits).mp permits).1

theorem Permits.of_run {steps : List AgreementStep}
    (permits : (session.run steps).Permits choice) : session.Permits choice := by
  induction steps using List.reverseRecOn with
  | nil => exact permits
  | append_singleton earlier last induction =>
      rw [run_concat] at permits
      exact induction permits.of_perform

theorem isUnified_of_run {steps : List AgreementStep}
    (unified : (session.run steps).isUnified = true) : session.isUnified = true := by
  obtain ⟨choice, permits⟩ := isUnified_iff_exists_permits.mp unified
  exact isUnified_iff_exists_permits.mpr ⟨choice, permits.of_run⟩

/--
After any run, a session tells of every position whether the words would agree with it added.  Words
that do not agree do not agree after any further run either.
-/
theorem run_foresees (session : AgreementSession) (steps : List AgreementStep) :
    (∀ index position,
      (session.run steps).isSatisfiedBy position =
        ((session.run steps).add index position).isUnified) ∧
      ∀ further, (session.run steps).isUnified = false →
        (session.run (steps ++ further)).isUnified = false := by
  refine ⟨(session.run steps).isSatisfiedBy_eq_isUnified_add, fun further failed => ?_⟩
  rw [run_append, Bool.eq_false_iff]
  intro unified
  exact Bool.eq_false_iff.mp failed (isUnified_of_run unified)

/-- A singular article does not agree with a plural noun, and no singular one makes up for it. -/
theorem run_foresees_of_number :
    ∃ (table : FeatureTable) (session : AgreementSession), table.Defined ∧
      start table [("number", [])] = .ok session ∧
      let article := (Position.ofWord "la" 0).addReading (.tagged "la" "el" "sg")
      let plural := (Position.ofWord "casas" 3).addReading (.tagged "casas" "casa" "pl")
      let singular := (Position.ofWord "casa" 9).addReading (.tagged "casa" "casa" "sg")
      ((session.run [.add 1 article]).isSatisfiedBy plural = false ∧
          ((session.run [.add 1 article]).add 2 plural).isUnified = false) ∧
        (session.run [.add 1 article, .add 2 plural]).isUnified = false ∧
          (session.run ([.add 1 article, .add 2 plural] ++ [.add 3 singular])).isUnified =
            false := by
  have defined : FeatureTable.Defined _ :=
    .define (.define .empty (rfl : FeatureTable.define [] "number" "sg" (.tagged "sg") = .ok _))
      (rfl : FeatureTable.define _ "number" "pl" (.tagged "pl") = .ok _)
  refine ⟨_, _, defined, rfl, ?_⟩
  intro article plural singular
  refine ⟨⟨rfl, ?_⟩, ?failed, (run_foresees _ _).2 _ ?failed⟩
  · rw [← (run_foresees _ _).1 2 plural]
    rfl
  · rfl

end PhraseRules.AgreementSession
