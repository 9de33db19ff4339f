import PhraseRules.Proofs.Search.Farthest

/-!
# The extent of an occurrence

Whatever the slots refer to and agree in, an occurrence consists of runs of neighbouring words, one
for each slot that is filled, and the run of a later slot stands farther on
(`Occurrence.ConsistsOf`).  It begins where the search does and ends behind the last word that is
bound, so that all that is bound stands in between, and it is bound to slots of the query.
-/

namespace PhraseRules

/-- The runs stand between two places.  No run is empty, and each one is that of a later slot than
the one before, and stands behind it. -/
structure Assignment.StandBetween (filled : List (Nat × Run)) (place stop : Nat) : Prop where
  nonempty : ∀ entry ∈ filled, 0 < entry.2.count
  ordered : filled.Pairwise fun former latter =>
    former.1 < latter.1 ∧ former.2.stop ≤ latter.2.start
  start_le : ∀ entry ∈ filled, place ≤ entry.2.start
  stop_le : ∀ entry ∈ filled, entry.2.stop ≤ stop

/-- The occurrence binds the words of the runs to their slots. -/
structure Occurrence.ConsistsOf (occurrence : Occurrence) (filled : List (Nat × Run)) : Prop
    extends Assignment.StandBetween filled occurrence.start occurrence.stop where
  places_eq : Query.boundPlaces occurrence.bindings = Assignment.placesOf filled

namespace Assignment

variable {filled : List (Nat × Run)} {place stop index : Nat} {run : Run}

theorem StandBetween.nil (place stop : Nat) : StandBetween [] place stop where
  nonempty := fun _ absent => (List.not_mem_nil absent).elim
  ordered := .nil
  start_le := fun _ absent => (List.not_mem_nil absent).elim
  stop_le := fun _ absent => (List.not_mem_nil absent).elim

/-- A run that is not empty stands before those behind it. -/
theorem StandBetween.cons (behind : StandBetween filled run.stop stop) (positive : 0 < run.count)
    (place_le : place ≤ run.start) (stop_le : run.stop ≤ stop)
    (later : ∀ entry ∈ filled, index < entry.1) :
    StandBetween ((index, run) :: filled) place stop where
  nonempty := List.forall_mem_cons.mpr ⟨positive, behind.nonempty⟩
  ordered := List.pairwise_cons.mpr
    ⟨fun entry member => ⟨later entry member, behind.start_le entry member⟩, behind.ordered⟩
  start_le := List.forall_mem_cons.mpr ⟨place_le, fun entry member =>
    place_le.trans ((Nat.le_add_right _ _).trans (behind.start_le entry member))⟩
  stop_le := List.forall_mem_cons.mpr ⟨stop_le, behind.stop_le⟩

theorem lt_of_mem_filledFrom {assignment : Assignment} {entry : Nat × Run}
    (member : entry ∈ assignment.filledFrom index) : entry.1 < index + assignment.length := by
  induction assignment generalizing index with
  | nil => cases member
  | cons filling later induction =>
      rw [List.length_cons, Nat.add_comm later.length, ← Nat.add_assoc]
      cases filling with
      | none => exact induction member
      | some run =>
          rcases List.mem_cons.mp member with rfl | member
          · exact Nat.lt_add_right _ (Nat.lt_succ_self index)
          · exact induction member

theorem mem_placesOf_iff {slot : Nat} :
    (slot, place) ∈ placesOf filled ↔
      ∃ run, (slot, run) ∈ filled ∧ run.start ≤ place ∧ place < run.stop := by
  simp only [placesOf, List.mem_flatMap, List.mem_map, List.mem_range'_1]
  constructor
  · rintro ⟨⟨slot, run⟩, listed, place, inside, equal⟩
    cases equal
    exact ⟨run, listed, inside⟩
  · rintro ⟨run, listed, inside⟩
    exact ⟨(slot, run), listed, place, inside, rfl⟩

end Assignment

namespace Query

variable {query : Query} {positions : List Position} {sentence : Sentence} {start index : Nat}
  {node last : SearchNode} {occurrence : Occurrence} {assignment : Assignment}
  {remaining : List (Slot × Option AgreementGroup)}

/-! ## Runs on a way through the slots -/

/-- A way through the slots binds the words of its runs. -/
theorem Fills.boundPlaces_eq
    (fills : query.Fills positions remaining index node assignment last) :
    boundPlaces last.bindings =
      boundPlaces node.bindings ++ Assignment.placesOf (assignment.filledFrom index) := by
  induction fills with
  | done => exact (List.append_nil _).symm
  | fill resolved lands fits extended left onward induction =>
      rw [induction, (leaveSlot_keeps left).2, boundPlaces_nodeBehind fits.toRepeats,
        List.append_assoc]
      rfl
  | leaveOut resolved optional left onward induction =>
      rw [induction, (leaveSlot_keeps left).2]
      rfl

/-- The runs on a way through the slots stand between its ends. -/
theorem Fills.standBetween (fills : query.Fills positions remaining index node assignment last) :
    Assignment.StandBetween (assignment.filledFrom index) node.place last.place := by
  induction fills with
  | done => exact .nil _ _
  | @fill _ _ _ _ _ _ next _ run _ _ resolved lands fits extended left onward induction =>
      have place_eq : next.place = run.stop :=
        (leaveSlot_keeps left).1.1.trans (Slot.stop_placementOf fits.toRepeats)
      have positive : 0 < run.count := by
        have := fits.least_le
        omega
      rw [place_eq] at induction
      exact induction.cons positive lands.le_landing (place_eq ▸ onward.place_le.1)
        fun _ => Assignment.le_of_mem_filledFrom
  | leaveOut resolved optional left onward induction =>
      rw [(leaveSlot_keeps left).1.1] at induction
      exact induction

/-- An occurrence consists of runs, and they are those of slots of the query. -/
theorem exists_consistsOf_of_occurrenceAt?
    (found : query.occurrenceAt? sentence start = .ok (some occurrence)) :
    ∃ filled, occurrence.ConsistsOf filled ∧ ∀ entry ∈ filled, entry.1 < query.slots.length := by
  rcases meets_of_occurrenceAt? found with ⟨assignment, last, fills, -, rfl⟩
  refine ⟨assignment.filled, ⟨fills.standBetween, fills.boundPlaces_eq⟩, fun entry member => ?_⟩
  have few : (query.slotsFrom 0).length ≤ query.slots.length := by
    rw [slotsFrom, List.drop_zero, List.length_zip]
    exact Nat.min_le_left _ _
  calc entry.1 < 0 + assignment.length := Assignment.lt_of_mem_filledFrom member
    _ = (query.slotsFrom 0).length := by rw [Nat.zero_add, fills.admitted.length_eq]
    _ ≤ query.slots.length := few

end Query

/-! ## What is bound -/

namespace Occurrence.ConsistsOf

variable {occurrence : Occurrence} {filled : List (Nat × Run)} {slot place : Nat} {run : Run}

/-- A word that is bound stands in the run of its slot. -/
theorem exists_run (consists : occurrence.ConsistsOf filled) {binding : Binding}
    (member : binding ∈ occurrence.bindings) :
    ∃ run, (binding.slot, run) ∈ filled ∧
      run.start ≤ binding.position ∧ binding.position < run.stop := by
  have bound : (binding.slot, binding.position) ∈ Query.boundPlaces occurrence.bindings :=
    List.mem_map_of_mem member
  rw [consists.places_eq] at bound
  exact Assignment.mem_placesOf_iff.mp bound

/-- The words bound to a slot are those of its run. -/
theorem positionsOf_eq (consists : occurrence.ConsistsOf filled) (member : (slot, run) ∈ filled) :
    occurrence.positionsOf slot = List.range' run.start run.count := by
  rcases List.append_of_mem member with ⟨earlier, later, rfl⟩
  obtain ⟨-, orderedBehind, before⟩ := List.pairwise_append.mp consists.ordered
  have behind := (List.pairwise_cons.mp orderedBehind).1
  have nothing {others : List (Nat × Run)} (differ : ∀ entry ∈ others, entry.1 ≠ slot) :
      (Assignment.placesOf others).filter (·.1 == slot) = [] := by
    rw [List.filter_eq_nil_iff]
    rintro ⟨index, place⟩ placed
    rcases Assignment.mem_placesOf_iff.mp placed with ⟨other, listed, -⟩
    simpa using differ _ listed
  have positions_eq : occurrence.positionsOf slot =
      ((Query.boundPlaces occurrence.bindings).filter (·.1 == slot)).map (·.2) := by
    rw [Query.boundPlaces, List.filter_map, List.map_map]
    rfl
  have places_eq : Assignment.placesOf (earlier ++ (slot, run) :: later) =
      Assignment.placesOf earlier ++
        ((List.range' run.start run.count).map (slot, ·) ++ Assignment.placesOf later) := by
    rw [Assignment.placesOf, List.flatMap_append, List.flatMap_cons]
    rfl
  rw [positions_eq, consists.places_eq, places_eq, List.filter_append, List.filter_append,
    nothing fun entry listed => Nat.ne_of_lt (before entry listed _ List.mem_cons_self).1,
    nothing fun entry listed => Nat.ne_of_gt (behind entry listed).1, List.nil_append,
    List.append_nil, List.filter_eq_self.mpr, List.map_map]
  · exact List.map_id _
  · intro place bound
    rcases List.mem_map.mp bound with ⟨_, -, rfl⟩
    exact beq_self_eq_true slot

/-- A slot to which a word is bound has a run. -/
theorem exists_positionsOf_eq (consists : occurrence.ConsistsOf filled)
    (bound : place ∈ occurrence.positionsOf slot) :
    ∃ run, (slot, run) ∈ filled ∧
      occurrence.positionsOf slot = List.range' run.start run.count := by
  rcases List.mem_map.mp bound with ⟨binding, kept, rfl⟩
  rcases List.mem_filter.mp kept with ⟨member, isSlot⟩
  rcases beq_iff_eq.mp isSlot with rfl
  rcases consists.exists_run member with ⟨run, listed, -⟩
  exact ⟨run, listed, consists.positionsOf_eq listed⟩

/-- The words of a slot are bound from left to right. -/
theorem pairwise_positionsOf (consists : occurrence.ConsistsOf filled) (slot : Nat) :
    (occurrence.positionsOf slot).Pairwise (· < ·) := by
  cases positions_eq : occurrence.positionsOf slot with
  | nil => exact .nil
  | cons first others =>
      rcases consists.exists_positionsOf_eq (positions_eq ▸ List.mem_cons_self) with
        ⟨run, -, range_eq⟩
      rw [← positions_eq, range_eq]
      exact List.pairwise_lt_range'

/-- The words of a later slot stand farther on. -/
theorem place_lt_place (consists : occurrence.ConsistsOf filled) {later other : Nat}
    (behind : slot < later) (bound : place ∈ occurrence.positionsOf slot)
    (boundLater : other ∈ occurrence.positionsOf later) : place < other := by
  rcases consists.exists_positionsOf_eq bound with ⟨run, listed, positions_eq⟩
  rcases consists.exists_positionsOf_eq boundLater with ⟨runLater, listedLater, laterPositions_eq⟩
  rw [positions_eq, List.mem_range'_1] at bound
  rw [laterPositions_eq, List.mem_range'_1] at boundLater
  rcases List.append_of_mem listed with ⟨before, after, rfl⟩
  obtain ⟨-, orderedBehind, orderedBefore⟩ := List.pairwise_append.mp consists.ordered
  rcases List.mem_append.mp listedLater with former | latter
  · have := (orderedBefore _ former _ List.mem_cons_self).1
    omega
  · rcases List.mem_cons.mp latter with equal | latter
    · cases equal
      omega
    · have stop_le : run.stop ≤ runLater.start :=
        ((List.pairwise_cons.mp orderedBehind).1 _ latter).2
      rw [Run.stop] at stop_le
      omega

end Occurrence.ConsistsOf

namespace Query

variable {query : Query} {sentence : Sentence} {start : Nat} {occurrence : Occurrence}
  {binding : Binding}

/-- What an occurrence binds stands in it. -/
theorem within_of_occurrenceAt? (found : query.occurrenceAt? sentence start = .ok (some occurrence))
    (member : binding ∈ occurrence.bindings) :
    start ≤ binding.position ∧ binding.position < occurrence.stop := by
  rcases exists_consistsOf_of_occurrenceAt? found with ⟨filled, consists, -⟩
  rcases consists.exists_run member with ⟨run, listed, start_le, lt_stop⟩
  have begins := consists.start_le _ listed
  rw [(meets_of_occurrenceAt? found).start_eq] at begins
  exact ⟨begins.trans start_le, lt_stop.trans_le (consists.stop_le _ listed)⟩

/-- What an occurrence binds is bound to slots of the query. -/
theorem slot_lt_of_occurrenceAt?
    (found : query.occurrenceAt? sentence start = .ok (some occurrence))
    (member : binding ∈ occurrence.bindings) :
    binding.slot < query.slots.length := by
  rcases exists_consistsOf_of_occurrenceAt? found with ⟨filled, consists, inside⟩
  rcases consists.exists_run member with ⟨run, listed, -⟩
  exact inside _ listed

end Query

end PhraseRules
