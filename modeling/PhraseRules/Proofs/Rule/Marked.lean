import PhraseRules.Proofs.Search.Extent
import PhraseRules.Rule.Finding

/-!
# Which words are marked

The words that a finding is about are the fewest in a row that take in all marked ones
(`Rule.markedSpan_spec`).  Where no word is marked, the finding is about the whole occurrence.
-/

namespace PhraseRules

/-! ## Marked slots -/

/-- The words of the slot are marked: it says so, or no slot does and it does not say that they are
not. -/
def MarksSlot (slots : List Slot) (index : Nat) : Prop :=
  ∃ slot, slots[index]? = some slot ∧
    (slot.marked = some true ∨
      slot.marked ≠ some false ∧ ∀ other ∈ slots, other.marked ≠ some true)

theorem isMarked_iff {slots : List Slot} {slot : Slot} :
    isMarked (slots.any (·.marked == some true)) slot = true ↔
      slot.marked = some true ∨
        slot.marked ≠ some false ∧ ∀ other ∈ slots, other.marked ≠ some true := by
  rw [isMarked]
  split
  case isTrue someMarked =>
      rcases List.any_eq_true.mp someMarked with ⟨other, member, marked⟩
      have excluded : ¬∀ other ∈ slots, other.marked ≠ some true :=
        fun none => none other member (beq_iff_eq.mp marked)
      simp [excluded]
  case isFalse noneMarked =>
      have noOther : ∀ other ∈ slots, other.marked ≠ some true := by simpa using noneMarked
      rw [bne_iff_ne]
      constructor
      · exact fun notOut => Or.inr ⟨notOut, noOther⟩
      · rintro (marked | ⟨notOut, -⟩)
        · rw [marked]
          decide
        · exact notOut

theorem mem_markedPositions_iff {slots : List Slot} {bindings : List Binding} {place : Nat} :
    place ∈ markedPositions slots bindings ↔
      ∃ binding ∈ bindings, binding.position = place ∧ MarksSlot slots binding.slot := by
  simp only [markedPositions, List.mem_map, List.mem_filter, Option.any_eq_true, isMarked_iff,
    MarksSlot]
  constructor
  · rintro ⟨binding, ⟨member, marks⟩, equal⟩
    exact ⟨binding, member, equal, marks⟩
  · rintro ⟨binding, member, equal, marks⟩
    exact ⟨binding, ⟨member, marks⟩, equal⟩

/-! ## The marked words of an occurrence -/

/-- The range takes in all places of a kind, and lies within every range that does. -/
structure IsTightest (places : Nat → Prop) (first last : Nat) : Prop where
  takesIn : ∀ place, places place → first ≤ place ∧ place < last
  least : ∀ lower upper, (∀ place, places place → lower ≤ place ∧ place < upper) →
    lower ≤ first ∧ last ≤ upper

namespace Rule

variable {rule : Rule} {query : Query} {sentence : Sentence} {start : Nat}
  {occurrence : Occurrence}

/-- The word at the place is bound to a slot whose words are marked. -/
def Marks (rule : Rule) (occurrence : Occurrence) (place : Nat) : Prop :=
  ∃ binding ∈ occurrence.bindings, binding.position = place ∧ MarksSlot rule.slots binding.slot

theorem markedSpan_spec (rule : Rule) (occurrence : Occurrence) :
    IsTightest (rule.Marks occurrence) (rule.markedSpan occurrence).1
        (rule.markedSpan occurrence).2 ∨
      (∀ place, ¬rule.Marks occurrence place) ∧
        rule.markedSpan occurrence = (occurrence.start, occurrence.stop) := by
  have marks_eq : rule.Marks occurrence = (· ∈ markedPositions rule.slots occurrence.bindings) :=
    funext fun _ => propext mem_markedPositions_iff.symm
  rw [marks_eq, markedSpan]
  generalize markedPositions rule.slots occurrence.bindings = marked
  cases marked with
  | nil => exact Or.inr ⟨fun _ => List.not_mem_nil, rfl⟩
  | cons place others =>
      obtain ⟨first, min_eq⟩ : ∃ first, (place :: others).min? = some first := ⟨_, rfl⟩
      obtain ⟨last, max_eq⟩ : ∃ last, (place :: others).max? = some last := ⟨_, rfl⟩
      rcases List.min?_eq_some_iff.mp min_eq with ⟨first_mem, first_le⟩
      rcases List.max?_eq_some_iff.mp max_eq with ⟨last_mem, le_last⟩
      rw [min_eq, max_eq]
      refine Or.inl ⟨fun other member => ?_, fun lower upper inside => ?_⟩
      · exact ⟨first_le other member, Nat.lt_succ_of_le (le_last other member)⟩
      · exact ⟨(inside first first_mem).1, (inside last last_mem).2⟩

/-- No word before an occurrence is among its marked ones. -/
theorem start_le_markedSpan (rule : Rule)
    (found : query.occurrenceAt? sentence start = .ok (some occurrence)) :
    occurrence.start ≤ (rule.markedSpan occurrence).1 := by
  rcases rule.markedSpan_spec occurrence with tightest | ⟨-, span_eq⟩
  · refine (tightest.least occurrence.start occurrence.stop fun place marks => ?_).1
    rcases marks with ⟨binding, bound, rfl, -⟩
    rw [(Query.meets_of_occurrenceAt? found).start_eq]
    exact Query.within_of_occurrenceAt? found bound
  · rw [span_eq]

end Rule

end PhraseRules
