import PhraseRules.Proofs.Agreement.Selection
import PhraseRules.Proofs.Search.Settled
import PhraseRules.Proofs.Slot.Hints

/-!
# The readings that fill a slot

A word that fills a slot is bound by some of its readings.  They are found by testing form, tag and
space of each reading, for the slot and for its alternatives, which is not all that these may ask
for.  Where it is, a word without chunks is bound by just the readings with each of which alone it
fills the slot.
-/

namespace PhraseRules

/-- The position with one of its readings alone. -/
def Position.only (position : Position) (reading : Reading) : Position :=
  { position with readings := [reading] }

namespace Criterion

theorem holdsOfReading_only (criterion : Criterion) (position : Position)
    (reading other : Reading) :
    criterion.holdsOfReading reading (position.only other) =
      criterion.holdsOfReading reading position := by
  have boundary_eq (boundary : Boundary) :
      boundary.holds (position.only other) = boundary.holds position := by
    cases boundary <;> rfl
  have tag_eq (tag : TagCriterion) :
      tag.holds reading (position.only other) = tag.holds reading position := by
    simp only [TagCriterion.holds, boundary_eq]
  simp only [holdsOfReading, tag_eq]
  rfl

/-- Without chunks, a criterion that asks for one alone does not hold, and others are met by a
reading. -/
theorem holds_iff {criterion : Criterion} {position : Position} (noChunks : position.chunks = []) :
    criterion.holds position = true ↔
      criterion.isChunkOnly = false ∧
        ∃ reading ∈ position.readings, criterion.holdsOfReading reading position = true := by
  rw [holds, isChunkOnly, noChunks]
  cases criterion.chunk with
  | none => simp [holdsOfSomeReading]
  | some chunk => simp [holdsOfSomeReading]

/-- A reading alone meets a criterion if it does so among others. -/
theorem holds_only_iff {criterion : Criterion} {position : Position}
    (noChunks : position.chunks = []) (reading : Reading) :
    criterion.holds (position.only reading) = true ↔
      criterion.isChunkOnly = false ∧ criterion.holdsOfReading reading position = true := by
  rw [holds_iff (show (position.only reading).chunks = [] from noChunks)]
  simp only [holdsOfReading_only]
  simp [Position.only]

end Criterion

namespace Slot

variable {slot : Slot} {position : Position} {reading : Reading}

/-- With the reading alone, the word fills the slot itself or one of its alternatives. -/
def SatisfiedBy (slot : Slot) (position : Position) (reading : Reading) : Prop :=
  slot.criterion.holds (position.only reading) = true ∨
    ∃ alternative ∈ slot.alternatives, alternative.accepts (position.only reading) = true
deriving Decidable

/-- What the slot itself asks of a word without chunks can be tested of one reading. -/
structure DecidesByReading (slot : Slot) : Prop where
  notChunkOnly : slot.criterion.isChunkOnly = false
  noConjuncts : slot.conjuncts = []
  unexcepted : slot.hasExceptions .current = false

theorem DecidesByReading.accepts_iff (decides : slot.DecidesByReading) :
    slot.accepts position = true ↔
      slot.criterion.holds position = true ∨
        ∃ alternative ∈ slot.alternatives, alternative.accepts position = true := by
  rw [Slot.accepts_iff, decides.noConjuncts, excepts_eq_false decides.unexcepted]
  simp

/-- Such a slot is filled by a reading alone if that passes its test, or fills an alternative. -/
theorem DecidesByReading.accepts_only_iff (decides : slot.DecidesByReading)
    (noChunks : position.chunks = []) :
    slot.accepts (position.only reading) = true ↔
      slot.acceptsReading reading position = true ∨
        ∃ alternative ∈ slot.alternatives, alternative.accepts (position.only reading) = true := by
  rw [decides.accepts_iff, Criterion.holds_only_iff noChunks, acceptsReading]
  simp [decides.notChunkOnly]

/-- A word without chunks can fill a slot only by its readings. -/
theorem readings_ne_nil_of_accepts {slot : Slot} (noChunks : position.chunks = [])
    (accepted : slot.accepts position = true) : position.readings ≠ [] := by
  rcases (accepted_by accepted).1 with holds | ⟨alternative, member, acceptedInstead⟩
  · rcases (Criterion.holds_iff noChunks).mp holds with ⟨-, reading, member, -⟩
    exact List.ne_nil_of_mem member
  · -- the alternative may itself be filled by one of its alternatives, at any depth
    exact readings_ne_nil_of_accepts noChunks acceptedInstead
termination_by sizeOf slot
decreasing_by
  have smaller := List.sizeOf_lt_of_mem member
  cases slot
  rw [mk.sizeOf_spec]
  dsimp only at smaller
  omega

theorem mem_boundReadings_iff (notChunkOnly : slot.criterion.isChunkOnly = false)
    (passes : ∃ reading ∈ position.readings, slot.bindsReading position reading = true)
    {index : Nat} :
    index ∈ slot.boundReadings position ↔
      ∃ reading, position.readings[index]? = some reading ∧
        slot.bindsReading position reading = true := by
  have mem_iff : index ∈ indicesFrom (slot.bindsReading position) 0 position.readings ↔
      ∃ reading, position.readings[index]? = some reading ∧
        slot.bindsReading position reading = true := by
    rw [mem_indicesFrom_iff]
    simp
  have nonempty :
      (indicesFrom (slot.bindsReading position) 0 position.readings).isEmpty = false := by
    rcases passes with ⟨reading, member, passes⟩
    rcases List.getElem?_of_mem member with ⟨offset, found⟩
    rw [List.isEmpty_eq_false_iff]
    apply List.ne_nil_of_mem
    exact mem_indicesFrom_iff.mpr ⟨offset, reading, found, passes, rfl⟩
  rw [boundReadings, nonempty, notChunkOnly, Bool.or_false, if_neg Bool.false_ne_true, mem_iff]

theorem satisfiedBy_of_bindsReading (noChunks : position.chunks = [])
    (notChunkOnly : slot.criterion.isChunkOnly = false)
    (deciding : ∀ alternative ∈ slot.alternatives, alternative.DecidesByReading)
    (passes : slot.bindsReading position reading = true) : slot.SatisfiedBy position reading := by
  rw [bindsReading, Bool.or_eq_true, List.any_eq_true] at passes
  rcases passes with passes | ⟨alternative, member, passes⟩
  · exact Or.inl ((Criterion.holds_only_iff noChunks reading).mpr ⟨notChunkOnly, passes⟩)
  · have decides := deciding alternative member
    exact Or.inr ⟨alternative, member, (decides.accepts_only_iff noChunks).mpr (Or.inl passes)⟩

theorem bindsReading_iff_satisfiedBy (noChunks : position.chunks = [])
    (notChunkOnly : slot.criterion.isChunkOnly = false)
    (deciding : ∀ alternative ∈ slot.alternatives, alternative.DecidesByReading)
    (flat : ∀ alternative ∈ slot.alternatives, alternative.alternatives = []) :
    slot.bindsReading position reading = true ↔ slot.SatisfiedBy position reading := by
  refine ⟨satisfiedBy_of_bindsReading noChunks notChunkOnly deciding, ?_⟩
  rw [bindsReading, Bool.or_eq_true, List.any_eq_true]
  rintro (holds | ⟨alternative, member, accepted⟩)
  · exact Or.inl ((Criterion.holds_only_iff noChunks reading).mp holds).2
  · have decides := deciding alternative member
    rw [decides.accepts_only_iff noChunks, flat alternative member] at accepted
    exact Or.inr ⟨alternative, member, by simpa using accepted⟩

theorem exists_bindsReading_of_accepts (noChunks : position.chunks = [])
    (flat : ∀ alternative ∈ slot.alternatives, alternative.alternatives = [])
    (accepted : slot.accepts position = true) :
    ∃ reading ∈ position.readings, slot.bindsReading position reading = true := by
  simp only [bindsReading, Bool.or_eq_true, List.any_eq_true]
  rcases (accepted_by accepted).1 with holds | ⟨alternative, member, acceptedInstead⟩
  · rcases (Criterion.holds_iff noChunks).mp holds with ⟨-, reading, standing, passes⟩
    exact ⟨reading, standing, Or.inl passes⟩
  · rcases (accepted_by acceptedInstead).1 with holds | ⟨further, furtherMember, -⟩
    · rcases (Criterion.holds_iff noChunks).mp holds with ⟨-, reading, standing, passes⟩
      exact ⟨reading, standing, Or.inr ⟨alternative, member, passes⟩⟩
    · rw [flat alternative member] at furtherMember
      cases furtherMember

/--
A word without chunks that fills a slot is bound by some reading.  It is bound only by readings with
each of which alone it fills the slot itself or an alternative, if the alternatives decide by
readings and some reading is as the slot or an alternative itself asks for; and by all of these, if
the alternatives have no further ones.
-/
theorem boundReadings_satisfy (noChunks : position.chunks = [])
    (accepted : slot.accepts position = true) :
    slot.boundReadings position ≠ [] ∧
      ((slot.criterion.isChunkOnly = true → slot.alternatives = []) →
        (∀ alternative ∈ slot.alternatives, alternative.DecidesByReading) →
          ((∃ reading ∈ position.readings, slot.bindsReading position reading = true) →
            ∀ index ∈ slot.boundReadings position, ∃ reading,
              position.readings[index]? = some reading ∧ slot.SatisfiedBy position reading) ∧
          ((∀ alternative ∈ slot.alternatives, alternative.alternatives = []) →
            ∀ index, index ∈ slot.boundReadings position ↔ ∃ reading,
              position.readings[index]? = some reading ∧ slot.SatisfiedBy position reading)) := by
  refine ⟨slot.boundReadings_ne_nil (readings_ne_nil_of_accepts noChunks accepted), ?_⟩
  intro chunkAlone deciding
  have notChunkOnly : slot.criterion.isChunkOnly = false := by
    rcases (accepted_by accepted).1 with holds | ⟨alternative, member, -⟩
    · exact ((Criterion.holds_iff noChunks).mp holds).1
    · refine Bool.eq_false_iff.mpr fun chunkOnly => ?_
      rw [chunkAlone chunkOnly] at member
      cases member
  constructor
  · intro passes index bound
    rcases (mem_boundReadings_iff notChunkOnly passes).mp bound with ⟨reading, found, binds⟩
    exact ⟨reading, found, satisfiedBy_of_bindsReading noChunks notChunkOnly deciding binds⟩
  · intro flat index
    rw [mem_boundReadings_iff notChunkOnly
      (exists_bindsReading_of_accepts noChunks flat accepted)]
    simp only [bindsReading_iff_satisfiedBy noChunks notChunkOnly deciding flat]

/-- One reading has the form that the slot asks for, another the tag of its alternative. -/
theorem boundReadings_satisfy_of_form_or_tag :
    ∃ slot, ({ SlotSpec.word "a" with caseSensitive := true }.or (.tagged "N")).compile =
        .ok slot ∧
      let position : Position := { Position.ofWord "a" 0 with
        readings := [⟨"a", none, some "V"⟩, ⟨"b", none, some "N"⟩, ⟨"b", none, some "V"⟩] }
      position.chunks = [] ∧ slot.accepts position = true ∧
        slot.boundReadings position = [0, 1] ∧
          ∀ index, index ∈ slot.boundReadings position ↔ ∃ reading,
            position.readings[index]? = some reading ∧ slot.SatisfiedBy position reading := by
  refine ⟨_, rfl, ?_⟩
  intro position
  refine ⟨rfl, ?accepted, ?bound,
    ((boundReadings_satisfy rfl ?accepted).2 ?chunk ?deciding).2 ?flat⟩
  case accepted => decide +kernel
  case bound => decide +kernel
  case chunk => exact fun impossible => by cases impossible
  case deciding =>
      intro alternative member
      rcases List.mem_singleton.mp member with rfl
      exact ⟨rfl, rfl, rfl⟩
  case flat =>
      intro alternative member
      rcases List.mem_singleton.mp member with rfl
      rfl

/--
A word is bound by a reading that satisfies nothing if an alternative asks for a chunk alone, if it
has conjuncts, if the word fills an alternative of an alternative, and if the slot asks for a chunk
alone and the word fills an alternative.
-/
theorem exists_bound_unsatisfied :
    let position : Position := { Position.ofWord "x" 0 with
      readings := [⟨"a", none, some "N"⟩, ⟨"b", none, some "V"⟩] }
    ∀ spec ∈ [
        SlotSpec.tagged "N" |>.or (SlotSpec.anyWord.withChunk "NP"),
        SlotSpec.word "a" |>.or (SlotSpec.word "b" |>.and (.tagged "N")),
        SlotSpec.word "c" |>.or (SlotSpec.word "d" |>.or (.word "a")),
        SlotSpec.anyWord.withChunk "NP" |>.or (.word "a")],
      ∃ slot, spec.compile = .ok slot ∧ position.chunks = [] ∧ slot.accepts position = true ∧
        slot.boundReadings position = [0, 1] ∧
          ¬slot.SatisfiedBy position ⟨"b", none, some "V"⟩ := by
  intro position
  simp only [List.forall_mem_cons, List.not_mem_nil, false_imp_iff, implies_true, and_true]
  exact ⟨⟨_, rfl, by decide +kernel⟩, ⟨_, rfl, by decide +kernel⟩, ⟨_, rfl, by decide +kernel⟩,
    ⟨_, rfl, by decide +kernel⟩⟩

end Slot

end PhraseRules
