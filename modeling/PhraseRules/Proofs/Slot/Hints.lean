import PhraseRules.Proofs.Distinct
import PhraseRules.Proofs.Slot.Acceptance
import PhraseRules.Proofs.SortedMap
import PhraseRules.Slot.Spec

/-!
# What hints promise

The hints of a slot list forms or headwords one of which a word is said to need.  The list is true
of every word that the slot accepts as long as everything that may fill the slot is heard when the
list is made.  `Slot.Heard` says what this takes; it fails for alternatives beside conjuncts, and
for conjuncts that different readings of a word satisfy.
-/

namespace PhraseRules

namespace Matcher

/-- Where the texts that meet a condition can be listed, they are those of the list. -/
theorem accepts_iff_mem_possibleValues {matcher : Matcher} {values : List String}
    (listed : matcher.possibleValues = some values) (text : String) :
    matcher.accepts text = true ↔ text ∈ values := by
  rw [possibleValues] at listed
  cases sensitive : matcher.caseSensitive with
  | false => simp [sensitive] at listed
  | true =>
      rw [accepts]
      cases test_eq : matcher.test with
      | anything => simp [sensitive, test_eq] at listed
      | expression regex => simp [sensitive, test_eq] at listed
      | exactly =>
          simp only [sensitive, test_eq, Bool.not_true, Bool.false_eq_true, if_false,
            Option.some.injEq] at listed
          simp only [← listed, List.mem_singleton, sensitive, Bool.not_true, Bool.false_and,
            Bool.or_false, beq_iff_eq]
          exact eq_comm
      | oneOf forms =>
          simp only [sensitive, test_eq, Bool.not_true, Bool.false_eq_true, if_false,
            Option.some.injEq] at listed
          simp [← listed, sensitive, mem_sortDistinct]

theorem isEmpty_eq_false_of_possibleValues {matcher : Matcher} {values : List String}
    (listed : matcher.possibleValues = some values) : matcher.isEmpty = false := by
  rw [possibleValues] at listed
  rw [isEmpty]
  split
  case h_1 test_eq => simp [test_eq] at listed
  all_goals rfl

end Matcher

namespace Slot

/-- What hints are compared with: the form of a reading, or its headword. -/
def hintKey (inflected : Bool) (reading : Reading) : String :=
  if inflected then reading.headword.getD reading.text else reading.text

/-- A word has one of the listed forms or headwords. -/
def HasHint (inflected : Bool) (position : Position) (listed : List String) : Prop :=
  ∃ reading ∈ position.readings, hintKey inflected reading ∈ listed

instance (inflected : Bool) (position : Position) (listed : List String) :
    Decidable (HasHint inflected position listed) :=
  inferInstanceAs (Decidable (∃ reading ∈ position.readings, hintKey inflected reading ∈ listed))

theorem HasHint.mono {inflected : Bool} {position : Position} {listed others : List String}
    (has : HasHint inflected position listed) (subset : listed ⊆ others) :
    HasHint inflected position others := by
  rcases has with ⟨reading, member, hint⟩
  exact ⟨reading, member, subset hint⟩

/-- A word that meets a criterion whose forms can be listed has one of them. -/
theorem hasHint_of_holds {criterion : Criterion} {position : Position} {values : List String}
    (affirmed : criterion.negated = false) (noChunk : criterion.chunk = none)
    (listed : criterion.text.possibleValues = some values)
    (holds : criterion.holds position = true) :
    HasHint criterion.inflected position values := by
  rw [Criterion.holds, noChunk] at holds
  rcases List.any_eq_true.mp holds with ⟨reading, member, holdsOfReading⟩
  refine ⟨reading, member, ?_⟩
  rw [Criterion.holdsOfReading, Matcher.isEmpty_eq_false_of_possibleValues listed, affirmed]
    at holdsOfReading
  simp only [Bool.false_eq_true, if_false, Bool.bne_false, Bool.and_eq_true] at holdsOfReading
  exact (Matcher.accepts_iff_mem_possibleValues listed _).mp holdsOfReading.1.2

/-! ## How hints are made -/

theorem mem_hintsOfConjuncts_iff {inflected : Bool} {own : List String} {conjuncts : List Slot}
    {text : String} :
    text ∈ hintsOfConjuncts inflected own conjuncts ↔
      text ∈ own ∧ ∀ conjunct ∈ conjuncts, ∀ listed, conjunct.hints inflected = some listed →
        text ∈ listed := by
  induction conjuncts generalizing own with
  | nil => simp [hintsOfConjuncts]
  | cons first later induction =>
      rw [hintsOfConjuncts]
      cases hinted : first.hints inflected with
      | none => simp [induction, hinted]
      | some others => simp [induction, hinted, intersectHints, and_assoc]

theorem mem_uniteHints_iff {first second : List String} {text : String} :
    text ∈ uniteHints first second ↔ text ∈ first ∨ text ∈ second := by
  induction second with
  | nil => simp [uniteHints]
  | cons added later induction =>
      rw [uniteHints, List.foldr_cons, mem_insertSorted, ← uniteHints, induction, List.mem_cons]
      exact or_left_comm

theorem mem_hintsOfAlternatives_iff {inflected : Bool} {own result : List String}
    {alternatives : List Slot}
    (united : hintsOfAlternatives inflected own alternatives = some result) :
    (∀ alternative ∈ alternatives, ∃ listed, alternative.hints inflected = some listed) ∧
      ∀ text, text ∈ result ↔ text ∈ own ∨ ∃ alternative ∈ alternatives,
        ∃ listed, alternative.hints inflected = some listed ∧ text ∈ listed := by
  induction alternatives generalizing own with
  | nil =>
      rw [hintsOfAlternatives, Option.some.injEq] at united
      simp [united]
  | cons first later induction =>
      rw [hintsOfAlternatives] at united
      cases hinted : first.hints inflected with
      | none =>
          rw [hinted] at united
          cases united
      | some others =>
          rw [hinted] at united
          rcases induction united with ⟨haveHints, mem_iff⟩
          constructor
          · intro alternative member
            rcases List.mem_cons.mp member with rfl | member
            · exact ⟨others, hinted⟩
            · exact haveHints alternative member
          · intro text
            rw [mem_iff, mem_uniteHints_iff]
            simp [hinted, or_assoc]

/-- What a slot with hints is like, and what its hints are made of. -/
theorem hints_eq_some {inflected : Bool} {slot : Slot} {listed : List String}
    (hinted : slot.hints inflected = some listed) :
    slot.criterion.inflected = inflected ∧ slot.criterion.negated = false ∧
      slot.criterion.chunk = none ∧ slot.least ≠ 0 ∧ slot.reference = none ∧
        ∃ own, slot.criterion.text.possibleValues = some own ∧
          (if slot.conjuncts.isEmpty then hintsOfAlternatives inflected own slot.alternatives
            else some (hintsOfConjuncts inflected own slot.conjuncts)) = some listed := by
  rcases slot with ⟨criterion, least, _, _, _, _, conjuncts, alternatives, _, _, reference⟩
  rw [hints] at hinted
  split at hinted
  case isTrue => cases hinted
  case isFalse asks =>
      simp only [Bool.or_eq_true, not_or, bne_iff_ne, ne_eq, not_not, Bool.not_eq_true,
        beq_eq_false_iff_ne, Option.isSome_eq_false_iff, Option.isNone_iff_eq_none] at asks
      rcases asks with ⟨⟨⟨⟨inflected_eq, affirmed⟩, required⟩, noReference⟩, noChunk⟩
      rcases Option.bind_eq_some_iff.mp hinted with ⟨own, own_eq, hinted⟩
      have made_eq {made : Option (List String)}
          (kept : (made.bind fun result => if result.isEmpty then none else some result) =
            some listed) : made = some listed := by
        cases made with
        | none => cases kept
        | some result =>
            rw [Option.bind_some] at kept
            split at kept
            · cases kept
            · exact kept
      refine ⟨inflected_eq.symm, affirmed, noChunk, required, noReference, own, own_eq, ?_⟩
      dsimp only at hinted ⊢
      split at hinted
      case isTrue alone =>
          rw [if_pos alone]
          exact made_eq hinted
      case isFalse joined =>
          rw [if_neg joined]
          exact made_eq hinted

/-! ## Slots that are heard -/

/-- All readings of a word have the same form or headword. -/
def SharesKey (inflected : Bool) (position : Position) : Prop :=
  ∀ reading ∈ position.readings, ∀ other ∈ position.readings,
    hintKey inflected reading = hintKey inflected other

/--
Everything by which a slot may accept the word is heard when its hints are made.  Without conjuncts
this is so if it is so for the alternatives.  With conjuncts, alternatives may not list more than
the slot itself, and no two readings of the word may have to satisfy the slot and its conjuncts
together unless one of the lists is no longer than what they have in common.
-/
inductive Heard (inflected : Bool) (position : Position) : Slot → Prop where
  | unlisted {slot : Slot} (nothing : slot.hints inflected = none) : Heard inflected position slot
  | united {slot : Slot} (noConjuncts : slot.conjuncts = [])
      (alternatives : ∀ alternative ∈ slot.alternatives, Heard inflected position alternative) :
      Heard inflected position slot
  | intersected {slot : Slot} {own listed : List String} (joined : slot.conjuncts ≠ [])
      (hinted : slot.hints inflected = some listed)
      (own_eq : slot.criterion.text.possibleValues = some own)
      (alternatives : ∀ alternative ∈ slot.alternatives, Heard inflected position alternative)
      (within : ∀ alternative ∈ slot.alternatives,
        ∃ others, alternative.hints inflected = some others ∧ others ⊆ own)
      (conjuncts : ∀ conjunct ∈ slot.conjuncts, Heard inflected position conjunct)
      (decided : SharesKey inflected position ∨ own ⊆ listed ∨ ∃ conjunct ∈ slot.conjuncts,
        ∃ others, conjunct.hints inflected = some others ∧ others ⊆ listed) :
      Heard inflected position slot

/-- A word that a heard slot accepts has one of its hints. -/
theorem Heard.hasHint {inflected : Bool} {position : Position} {slot : Slot}
    (heard : Heard inflected position slot) {listed : List String}
    (hinted : slot.hints inflected = some listed) (accepted : slot.accepts position = true) :
    HasHint inflected position listed := by
  induction heard generalizing listed with
  | unlisted nothing =>
      rw [nothing] at hinted
      cases hinted
  | @united slot noConjuncts alternatives heardAlternative =>
      rcases hints_eq_some hinted with ⟨rfl, affirmed, noChunk, -, -, own, own_eq, listed_eq⟩
      rw [noConjuncts, List.isEmpty_nil, if_pos rfl] at listed_eq
      rcases mem_hintsOfAlternatives_iff listed_eq with ⟨haveHints, mem_iff⟩
      rcases (accepted_by accepted).1 with holds | ⟨alternative, member, acceptedInstead⟩
      · have has := hasHint_of_holds affirmed noChunk own_eq holds
        exact has.mono fun text textMember => (mem_iff text).mpr (Or.inl textMember)
      · rcases haveHints alternative member with ⟨others, others_eq⟩
        have has := heardAlternative alternative member others_eq acceptedInstead
        exact has.mono fun text textMember =>
          (mem_iff text).mpr (Or.inr ⟨alternative, member, others, others_eq, textMember⟩)
  | @intersected slot own common joined commonHinted own_eq alternatives within conjuncts decided
      heardAlternative heardConjunct =>
      rcases hints_eq_some hinted with ⟨rfl, affirmed, noChunk, -, -, values, values_eq, listed_eq⟩
      rcases Option.some.inj (commonHinted.symm.trans hinted) with rfl
      rcases Option.some.inj (own_eq.symm.trans values_eq) with rfl
      rw [if_neg (mt List.isEmpty_iff.mp joined), Option.some.injEq] at listed_eq
      rcases accepted_by accepted with ⟨fills, acceptedToo⟩
      have hasOwn : HasHint slot.criterion.inflected position own := by
        rcases fills with holds | ⟨alternative, member, acceptedInstead⟩
        · exact hasHint_of_holds affirmed noChunk own_eq holds
        · rcases within alternative member with ⟨others, others_eq, subset⟩
          exact (heardAlternative alternative member others_eq acceptedInstead).mono subset
      -- one reading has a key of the slot, and for each conjunct some reading has one of its keys
      rcases decided with shares | subset | ⟨conjunct, member, others, others_eq, subset⟩
      · rcases hasOwn with ⟨reading, member, hint⟩
        refine ⟨reading, member, ?_⟩
        rw [← listed_eq, mem_hintsOfConjuncts_iff]
        refine ⟨hint, fun conjunct conjunctMember others others_eq => ?_⟩
        rcases heardConjunct conjunct conjunctMember others_eq
          (acceptedToo conjunct conjunctMember) with ⟨other, otherMember, otherHint⟩
        rw [shares reading member other otherMember]
        exact otherHint
      · exact hasOwn.mono subset
      · exact (heardConjunct conjunct member others_eq (acceptedToo conjunct member)).mono subset

/-- Where two readings satisfy a slot and its conjunct together, neither need have the hint. -/
example :
    ∃ slot,
      ({ SlotSpec.regex "a|b" with caseSensitive := true, inflected := true }.and
          { SlotSpec.regex "b|c" with caseSensitive := true, inflected := true }).compile =
        .ok slot ∧
      let position : Position := { Position.ofWord "x" 0 with
        readings := [.tagged "x" "a" "N", .tagged "x" "c" "V"] }
      slot.headwordHints = some ["b"] ∧ slot.accepts position = true ∧
        ¬HasHint true position ["b"] :=
  ⟨_, rfl, by decide +kernel⟩

end Slot

end PhraseRules
