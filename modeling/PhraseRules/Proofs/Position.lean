import PhraseRules.Position
import PhraseRules.Proofs.Distinct

/-!
# Adding readings

The first reading that is added takes the place of a placeholder that stands alone, and each is left
out where it stands already.  Readings that say something never make way again: what stays in the
place of one step stays, and what comes of several can be told at once (`readings_addReadings`).
-/

namespace PhraseRules.Position

/-- The position has one reading, which is a placeholder. -/
def IsBare (position : Position) : Prop :=
  position.readings.length = 1 ∧ ∀ reading ∈ position.readings, reading.isPlaceholder = true
deriving Decidable

/-- The readings that stay where others are added. -/
def keptReadings (position : Position) : List Reading :=
  if position.IsBare then [] else position.readings

variable {position : Position} {reading : Reading} {added : List Reading}

theorem keptReadings_sublist (position : Position) :
    position.keptReadings.Sublist position.readings := by
  rw [keptReadings]
  split
  case isTrue => exact List.nil_sublist _
  case isFalse => exact .refl _

theorem readings_addReading (position : Position) (reading : Reading) :
    (position.addReading reading).readings =
      position.keptReadings ++ distinctBeyond position.keptReadings [reading] := by
  have added_eq (kept : List Reading) :
      (if kept.contains reading = true then kept else kept ++ [reading]) =
        kept ++ distinctBeyond kept [reading] := by
    rw [distinctBeyond]
    split
    case isTrue => exact (List.append_nil _).symm
    case isFalse => rfl
  rw [← added_eq, addReading, keptReadings]
  rcases readings_eq : position.readings with _ | ⟨only, _ | ⟨second, later⟩⟩
  · simp [IsBare, readings_eq]
  · simp [IsBare, readings_eq]
  · simp [IsBare, readings_eq]

theorem not_isBare_of_mem (member : reading ∈ position.readings)
    (real : reading.isPlaceholder = false) : ¬position.IsBare := by
  intro bare
  rw [bare.2 reading member] at real
  cases real

theorem keptReadings_of_not_isBare (notBare : ¬position.IsBare) :
    position.keptReadings = position.readings :=
  if_neg notBare

theorem mem_readings_addReading (position : Position) (reading : Reading) :
    reading ∈ (position.addReading reading).readings := by
  rw [readings_addReading, List.mem_append, mem_distinctBeyond_iff, List.mem_singleton]
  by_cases member : reading ∈ position.keptReadings
  · exact Or.inl member
  · exact Or.inr ⟨rfl, member⟩

/-- What stays after a step is all that there is: the step left a reading that says something. -/
theorem keptReadings_addReading (real : reading.isPlaceholder = false) :
    (position.addReading reading).keptReadings = (position.addReading reading).readings :=
  keptReadings_of_not_isBare (not_isBare_of_mem (position.mem_readings_addReading reading) real)

theorem keptReadings_addReadings (real : ∀ reading ∈ added, reading.isPlaceholder = false) :
    (position.addReadings added).keptReadings =
      position.keptReadings ++ distinctBeyond position.keptReadings added := by
  induction added generalizing position with
  | nil => exact (List.append_nil _).symm
  | cons reading later induction =>
      obtain ⟨readingReal, laterReal⟩ := List.forall_mem_cons.mp real
      rw [addReadings, List.foldl_cons, ← addReadings, induction laterReal,
        keptReadings_addReading readingReal, readings_addReading, ← append_distinctBeyond_append,
        List.singleton_append]

theorem addReadings_eq (position : Position) (added : List Reading) :
    position.addReadings added =
      { position with readings := (position.addReadings added).readings } := by
  induction added generalizing position with
  | nil => rfl
  | cons reading later induction => exact induction (position.addReading reading)

/-- Once a reading was added that says something, no placeholder stands alone. -/
theorem not_isBare_addReadings (nonempty : added ≠ [])
    (real : ∀ reading ∈ added, reading.isPlaceholder = false) :
    ¬(position.addReadings added).IsBare := by
  obtain ⟨earlier, last, rfl⟩ := List.eq_nil_or_concat added |>.resolve_left nonempty
  rw [List.concat_eq_append, addReadings, List.foldl_append]
  exact not_isBare_of_mem (mem_readings_addReading _ last) (real last (by simp))

/-- Those of the readings that are new follow the others, each once. -/
theorem readings_addReadings (nonempty : added ≠ [])
    (real : ∀ reading ∈ added, reading.isPlaceholder = false) :
    (position.addReadings added).readings =
      position.keptReadings ++ (added.removeAll position.readings).eraseDups := by
  rw [← keptReadings_of_not_isBare (not_isBare_addReadings nonempty real),
    keptReadings_addReadings real]
  congr 1
  rw [keptReadings]
  split
  case isTrue bare =>
      -- the placeholder is none of the readings that are added
      have unlike : ∀ reading ∈ added, reading ∉ position.readings := by
        intro reading member standing
        cases (bare.2 reading standing).symm.trans (real reading member)
      have removeAll_eq : added.removeAll position.readings = added := by
        rw [List.removeAll, List.filter_eq_self]
        simpa using unlike
      rw [removeAll_eq, distinctBeyond_eq_eraseDups, List.removeAll_nil]
  case isFalse => exact distinctBeyond_eq_eraseDups _ _

theorem subset_keptReadings_addReadings
    (real : ∀ reading ∈ added, reading.isPlaceholder = false) :
    added ⊆ (position.addReadings added).keptReadings := by
  intro reading member
  rw [keptReadings_addReadings real, List.mem_append, mem_distinctBeyond_iff]
  by_cases kept : reading ∈ position.keptReadings
  · exact Or.inl kept
  · exact Or.inr ⟨member, kept⟩

/-- Readings that were added are not added again. -/
theorem addReadings_addReadings (real : ∀ reading ∈ added, reading.isPlaceholder = false) :
    (position.addReadings added).addReadings added = position.addReadings added := by
  obtain rfl | nonempty := eq_or_ne added []
  · rfl
  · have readings_eq : ((position.addReadings added).addReadings added).readings =
        (position.addReadings added).readings := by
      rw [← keptReadings_of_not_isBare (not_isBare_addReadings nonempty real),
        ← keptReadings_of_not_isBare (not_isBare_addReadings nonempty real),
        keptReadings_addReadings real,
        distinctBeyond_eq_nil (subset_keptReadings_addReadings real), List.append_nil]
    rw [addReadings_eq (position.addReadings added), readings_eq]

end PhraseRules.Position
