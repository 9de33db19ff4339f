import PhraseRules.Sentence.Basic

/-!
# Positions that make a sentence

A list of positions is taken for a sentence just if it is `Sentence.IsFaultless`: its first position
opens the sentence, no position starts before an earlier one, and each has a reading.
-/

namespace PhraseRules.Sentence

/-- What a list of positions needs to become a sentence. -/
structure IsFaultless (positions : List Position) : Prop where
  opens : ∃ first later, positions = first :: later ∧ first.sentenceStart = true
  ordered : positions.Pairwise fun former latter => former.start ≤ latter.start
  analysed : ∀ position ∈ positions, position.readings ≠ []

variable {index least : Nat} {positions : List Position}

theorem fault?_eq_none_iff :
    fault? index least positions = none ↔
      (∀ position ∈ positions, position.readings ≠ [] ∧ least ≤ position.start) ∧
        positions.Pairwise fun former latter => former.start ≤ latter.start := by
  induction positions generalizing index least with
  | nil => simp [fault?]
  | cons first later induction =>
      rw [fault?, List.forall_mem_cons, List.pairwise_cons]
      split
      case isTrue unanalysed =>
          simp [List.isEmpty_iff.mp unanalysed]
      case isFalse analysed =>
          split
          case isTrue early =>
              simp [Nat.not_le_of_lt early]
          case isFalse inOrder =>
              have least_le : least ≤ first.start := Nat.le_of_not_lt inOrder
              rw [induction]
              constructor
              · rintro ⟨each, ordered⟩
                refine ⟨⟨⟨mt List.isEmpty_iff.mpr analysed, least_le⟩, ?_⟩, ?_, ordered⟩
                · intro position member
                  exact ⟨(each position member).1, Nat.le_trans least_le (each position member).2⟩
                · intro position member
                  exact (each position member).2
              · rintro ⟨⟨-, each⟩, behind, ordered⟩
                exact ⟨fun position member => ⟨(each position member).1, behind position member⟩,
                  ordered⟩

/-- A position is said to have no readings only where one has none. -/
theorem exists_of_fault?_eq_noReadings {number : Nat}
    (faulty : fault? index least positions = some (.noReadings number)) :
    ∃ position ∈ positions, position.readings = [] := by
  induction positions generalizing index least with
  | nil => cases faulty
  | cons first later induction =>
      rw [fault?] at faulty
      split at faulty
      case isTrue unanalysed =>
          exact ⟨first, List.mem_cons_self, List.isEmpty_iff.mp unanalysed⟩
      case isFalse =>
          split at faulty
          case isTrue => cases faulty
          case isFalse =>
              obtain ⟨position, member, unanalysed⟩ := induction faulty
              exact ⟨position, List.mem_cons_of_mem first member, unanalysed⟩

/-- Positions with readings are not refused for lack of them. -/
theorem ofPositions_ne_noReadings (analysed : ∀ position ∈ positions, position.readings ≠ [])
    (number : Nat) : ofPositions positions ≠ .error (.noReadings number) := by
  intro refused
  rw [ofPositions.eq_def] at refused
  split at refused
  case h_1 => cases refused
  case h_2 first later =>
      split at refused
      case isFalse => cases refused
      case isTrue =>
          split at refused
          case h_2 => cases refused
          case h_1 fault faulty =>
              cases refused
              obtain ⟨position, member, unanalysed⟩ := exists_of_fault?_eq_noReadings faulty
              exact analysed position member unanalysed

theorem ofPositions_eq_ok_iff {sentence : Sentence} :
    ofPositions positions = .ok sentence ↔ IsFaultless positions ∧ sentence = ⟨positions⟩ := by
  constructor
  · intro made
    rw [ofPositions.eq_def] at made
    split at made
    case h_1 => cases made
    case h_2 first later =>
        split at made
        case isFalse => cases made
        case isTrue opens =>
            split at made
            case h_1 => cases made
            case h_2 faultless =>
                obtain ⟨each, ordered⟩ := fault?_eq_none_iff.mp faultless
                refine ⟨⟨⟨first, later, rfl, opens⟩, ordered, ?_⟩, (Except.ok.inj made).symm⟩
                intro position member
                exact (each position member).1
  · rintro ⟨⟨⟨first, later, rfl, opens⟩, ordered, analysed⟩, rfl⟩
    have faultless : fault? 0 0 (first :: later) = none :=
      fault?_eq_none_iff.mpr
        ⟨fun position member => ⟨analysed position member, Nat.zero_le _⟩, ordered⟩
    rw [ofPositions, if_pos opens, faultless]

/-- In a sentence made of positions every position has a reading. -/
theorem readings_ne_nil_of_ofPositions {sentence : Sentence}
    (made : ofPositions positions = .ok sentence) :
    ∀ position ∈ sentence.positions, position.readings ≠ [] := by
  obtain ⟨faultless, rfl⟩ := ofPositions_eq_ok_iff.mp made
  exact faultless.analysed

end PhraseRules.Sentence
