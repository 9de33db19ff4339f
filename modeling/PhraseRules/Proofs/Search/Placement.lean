import PhraseRules.Search.Placement

/-!
# Runs and where they may stand

A run is a stretch of neighbouring words.  `Query.Fits` says when a run can fill a slot by itself,
and `Lands` when it may begin at a place behind the run before it.  The placements that a search
tries are exactly the runs that do both.
-/

namespace PhraseRules

/-- A stretch of neighbouring words of a sentence. -/
structure Run where
  start : Nat
  count : Nat
deriving DecidableEq, Repr

/-- The place behind the run. -/
def Run.stop (run : Run) : Nat :=
  run.start + run.count

/--
A run may begin at `landing` when the slot `before` has been filled up to `place`: no more words are
skipped than allowed, and neither a skipped word nor the first one of the run is an exception to
what follows that slot.
-/
structure Lands (positions : List Position) (before : Option Slot) (allowance : Allowance)
    (place landing : Nat) : Prop where
  le_landing : place ≤ landing
  le_allowance : ∀ skip, allowance = some skip → landing ≤ place + skip
  unexcepted : ∀ index position, place ≤ index → index ≤ landing →
    positions[index]? = some position → before.any (·.excepts .next position) = false

/-- A slot can be repeated over a run: as often as it asks for, and with words that it accepts. -/
structure Query.Repeats (query : Query) (positions : List Position) (slot : Slot) (run : Run) :
    Prop where
  least_le : max 1 slot.least ≤ run.count
  le_most : ∀ most, slot.most = some most → run.count ≤ most
  accepted : ∀ index, run.start ≤ index → index < run.stop →
    ∃ position, positions[index]? = some position ∧ query.accepts slot position = true

/-- A run can fill a slot: the slot can be repeated over it, and the word before is no exception. -/
structure Query.Fits (query : Query) (positions : List Position) (slot : Slot) (run : Run) : Prop
    extends query.Repeats positions slot run where
  unexcepted : ∀ previous position, run.start = previous + 1 →
    positions[previous]? = some position → slot.excepts .previous position = false

/-- The placement that puts a run into a slot. -/
def Slot.placementOf (slot : Slot) (positions : List Position) (run : Run) : Placement :=
  ⟨run.start, ((positions.drop run.start).take run.count).map slot.boundReadings⟩

variable {query : Query} {slot : Slot} {positions : List Position} {before : Option Slot}
  {allowance : Allowance} {place landing : Nat} {run : Run}

/-- A slot that is repeated over a run accepts the first word of it. -/
theorem Query.Repeats.exists_first (repeats : query.Repeats positions slot run) :
    ∃ position, positions[run.start]? = some position ∧ query.accepts slot position = true := by
  have positive := repeats.least_le
  have holdsWord : run.start < run.stop := by
    rw [Run.stop]
    omega
  exact repeats.accepted run.start (Nat.le_refl _) holdsWord

theorem Query.Repeats.start_lt_length (repeats : query.Repeats positions slot run) :
    run.start < positions.length := by
  rcases repeats.exists_first with ⟨position, standing, -⟩
  exact (List.getElem?_eq_some_iff.mp standing).1

theorem Query.Repeats.stop_le_length (repeats : query.Repeats positions slot run) :
    run.stop ≤ positions.length := by
  have positive := repeats.least_le
  have last_lt : run.stop - 1 < run.stop := by
    rw [Run.stop]
    omega
  have start_le : run.start ≤ run.stop - 1 := by
    rw [Run.stop]
    omega
  rcases repeats.accepted (run.stop - 1) start_le last_lt with ⟨position, standing, -⟩
  have inside := (List.getElem?_eq_some_iff.mp standing).1
  omega

/-- What fits a slot depends on a query only by whether immune words are spared. -/
theorem Query.Fits.of_immunity {other : Query} (fits : query.Fits positions slot run)
    (same : query.immunity = other.immunity) : other.Fits positions slot run := by
  have accepts_eq : other.accepts slot = query.accepts slot := by
    funext position
    rw [Query.accepts, Query.accepts, same]
  refine ⟨⟨fits.least_le, fits.le_most, ?_⟩, fits.unexcepted⟩
  rw [accepts_eq]
  exact fits.accepted

/-! ## Landings -/

theorem landings_cons (first : Position) (later : List Position) :
    landings before allowance place (first :: later) =
      if before.any (·.excepts .next first) then []
      else place :: if allowance = some 0 then []
        else landings before (allowance.map (· - 1)) (place + 1) later := by
  rw [landings.eq_def]
  cases allowance with
  | none => rfl
  | some skip =>
      cases skip with
      | zero => rfl
      | succ fewer => rfl

/-- A run begins at the place itself, or behind a word that is skipped. -/
theorem lands_iff {first : Position} (standing : positions[place]? = some first) :
    Lands positions before allowance place landing ↔
      before.any (·.excepts .next first) = false ∧
        (landing = place ∨ allowance ≠ some 0 ∧
          Lands positions before (allowance.map (· - 1)) (place + 1) landing) := by
  constructor
  · intro lands
    refine ⟨lands.unexcepted place first (Nat.le_refl _) lands.le_landing standing, ?_⟩
    rcases Nat.eq_or_lt_of_le lands.le_landing with equal | behind
    · exact Or.inl equal.symm
    · refine Or.inr ⟨?_, ⟨behind, ?_, ?_⟩⟩
      · intro exhausted
        have := lands.le_allowance 0 exhausted
        omega
      · intro fewer allowed
        rcases Option.map_eq_some_iff.mp allowed with ⟨skip, allowance_eq, rfl⟩
        have := lands.le_allowance skip allowance_eq
        omega
      · intro index position place_le le_landing
        exact lands.unexcepted index position (by omega) le_landing
  · rintro ⟨unexcepted, rfl | ⟨left, lands⟩⟩
    · refine ⟨Nat.le_refl _, fun _ _ => Nat.le_add_right _ _, ?_⟩
      intro index position place_le le_landing found
      obtain rfl : index = landing := by omega
      rw [standing] at found
      rcases Option.some.inj found with rfl
      exact unexcepted
    · have behind := lands.le_landing
      refine ⟨by omega, ?_, ?_⟩
      · intro skip allowance_eq
        have := lands.le_allowance (skip - 1) (by rw [allowance_eq]; rfl)
        have : skip ≠ 0 := fun zero => left (by rw [allowance_eq, zero])
        omega
      · intro index position place_le le_landing found
        rcases Nat.eq_or_lt_of_le place_le with rfl | place_lt
        · rw [standing] at found
          rcases Option.some.inj found with rfl
          exact unexcepted
        · exact lands.unexcepted index position place_lt le_landing found

/-- The first run begins at the place itself. -/
theorem lands_start_iff : Lands positions none (some 0) place landing ↔ landing = place := by
  constructor
  · intro lands
    have := lands.le_landing
    have := lands.le_allowance 0 rfl
    omega
  · rintro rfl
    exact ⟨Nat.le_refl _, fun _ _ => Nat.le_add_right _ _, fun _ _ _ _ _ => rfl⟩

theorem mem_landings_iff :
    landing ∈ landings before allowance place (positions.drop place) ↔
      landing < positions.length ∧ Lands positions before allowance place landing := by
  generalize ahead_eq : positions.drop place = ahead
  induction ahead generalizing allowance place with
  | nil =>
      have := List.drop_eq_nil_iff.mp ahead_eq
      constructor
      · intro member
        cases member
      · rintro ⟨inside, lands⟩
        have := lands.le_landing
        omega
  | cons first later induction =>
      have standing : positions[place]? = some first := by
        rw [← List.head?_drop, ahead_eq]
        rfl
      have later_eq : positions.drop (place + 1) = later := by
        rw [← List.tail_drop, ahead_eq]
        rfl
      have inside := (List.getElem?_eq_some_iff.mp standing).1
      rw [landings_cons, lands_iff standing]
      cases before.any (·.excepts .next first) with
      | true => simp
      | false =>
          by_cases exhausted : allowance = some 0
          · simp only [exhausted, Bool.false_eq_true, if_false, if_true, List.mem_singleton,
              true_and]
            constructor
            · rintro rfl
              exact ⟨inside, Or.inl rfl⟩
            · rintro ⟨-, equal | ⟨left, -⟩⟩
              · exact equal
              · exact absurd rfl left
          · simp only [exhausted, Bool.false_eq_true, if_false, List.mem_cons, induction later_eq,
              true_and]
            constructor
            · rintro (rfl | ⟨inside, lands⟩)
              · exact ⟨inside, Or.inl rfl⟩
              · exact ⟨inside, Or.inr ⟨exhausted, lands⟩⟩
            · rintro ⟨inside, equal | ⟨-, lands⟩⟩
              · exact Or.inl equal
              · exact Or.inr ⟨inside, lands⟩

/-! ## Repetitions -/

/-- The run from a place on holds the bound readings of the words there. -/
theorem runOf_eq_map_take (limit : Option Nat) (ahead : List Position) :
    query.runOf slot limit ahead =
      (ahead.take (query.runOf slot limit ahead).length).map slot.boundReadings := by
  induction ahead generalizing limit with
  | nil => rfl
  | cons position later induction =>
      rw [Query.runOf]
      split
      · rfl
      · rw [List.length_cons, List.take_succ_cons, List.map_cons, ← induction]

/-- The run from a place on is as long as the limit and the words there allow. -/
theorem le_length_runOf_iff {limit : Option Nat} {ahead : List Position} {count : Nat} :
    count ≤ (query.runOf slot limit ahead).length ↔
      (∀ most, limit = some most → count ≤ most) ∧
        ∀ offset, offset < count →
          ∃ position, ahead[offset]? = some position ∧ query.accepts slot position = true := by
  induction ahead generalizing limit count with
  | nil =>
      rw [Query.runOf, List.length_nil, Nat.le_zero]
      constructor
      · rintro rfl
        exact ⟨fun _ _ => Nat.zero_le _, fun offset less => absurd less (Nat.not_lt_zero _)⟩
      · rintro ⟨-, accepted⟩
        rcases Nat.eq_zero_or_pos count with zero | positive
        · exact zero
        · rcases accepted 0 positive with ⟨position, standing, -⟩
          cases standing
  | cons first later induction =>
      cases count with
      | zero => simp
      | succ count =>
          rw [Query.runOf]
          split
          case isTrue stopped =>
              rw [Bool.or_eq_true, beq_iff_eq, Bool.not_eq_true'] at stopped
              constructor
              · intro impossible
                cases impossible
              · rintro ⟨limited, accepted⟩
                rcases stopped with exhausted | refused
                · cases limited 0 exhausted
                · rcases accepted 0 (Nat.succ_pos _) with ⟨position, standing, accepts⟩
                  obtain rfl : first = position := Option.some.inj standing
                  rw [refused] at accepts
                  cases accepts
          case isFalse proceeds =>
              rw [Bool.or_eq_true, not_or, beq_iff_eq, Bool.not_eq_true', Bool.not_eq_false]
                at proceeds
              rcases proceeds with ⟨left, accepts⟩
              rw [List.length_cons, Nat.succ_le_succ_iff, induction]
              constructor
              · rintro ⟨limited, accepted⟩
                constructor
                · intro most limit_eq
                  have := limited (most - 1) (by rw [limit_eq]; rfl)
                  have : most ≠ 0 := fun zero => left (by rw [limit_eq, zero])
                  omega
                · intro offset less
                  cases offset with
                  | zero => exact ⟨first, rfl, accepts⟩
                  | succ offset => exact accepted offset (Nat.lt_of_succ_lt_succ less)
              · rintro ⟨limited, accepted⟩
                constructor
                · intro fewer fewer_eq
                  rcases Option.map_eq_some_iff.mp fewer_eq with ⟨most, limit_eq, rfl⟩
                  have := limited most limit_eq
                  omega
                · intro offset less
                  exact accepted (offset + 1) (Nat.succ_lt_succ less)

theorem mem_repetitions_iff {least longest count : Nat} :
    count ∈ Query.repetitions least longest ↔ max 1 least ≤ count ∧ count ≤ longest := by
  rw [Query.repetitions, List.mem_reverse, List.mem_range'_1]
  omega

/-! ## Placements -/

/-- The repetitions tried at a place are those of the runs from there on. -/
theorem mem_map_repetitions_iff {placement : Placement} {start : Nat} :
    placement ∈ (Query.repetitions slot.least
          (query.runOf slot slot.most (positions.drop start)).length).map
        (fun count => ⟨start, (query.runOf slot slot.most (positions.drop start)).take count⟩) ↔
      ∃ count, query.Repeats positions slot ⟨start, count⟩ ∧
        placement = slot.placementOf positions ⟨start, count⟩ := by
  have placement_eq {count : Nat}
      (le_longest : count ≤ (query.runOf slot slot.most (positions.drop start)).length) :
      ⟨start, (query.runOf slot slot.most (positions.drop start)).take count⟩ =
        slot.placementOf positions ⟨start, count⟩ := by
    rw [runOf_eq_map_take, ← List.map_take, List.take_take, Nat.min_eq_left le_longest]
    rfl
  rw [List.mem_map]
  constructor
  · rintro ⟨count, member, rfl⟩
    rcases mem_repetitions_iff.mp member with ⟨least_le, le_longest⟩
    rcases le_length_runOf_iff.mp le_longest with ⟨le_most, accepted⟩
    refine ⟨count, ⟨least_le, le_most, ?_⟩, placement_eq le_longest⟩
    intro index start_le less
    rcases Nat.exists_eq_add_of_le start_le with ⟨offset, rfl⟩
    rcases accepted offset (Nat.lt_of_add_lt_add_left less) with ⟨position, standing, accepts⟩
    rw [List.getElem?_drop] at standing
    exact ⟨position, standing, accepts⟩
  · rintro ⟨count, repeats, rfl⟩
    have le_longest : count ≤ (query.runOf slot slot.most (positions.drop start)).length := by
      refine le_length_runOf_iff.mpr ⟨repeats.le_most, fun offset less => ?_⟩
      rw [List.getElem?_drop]
      exact repeats.accepted (start + offset) (Nat.le_add_right _ _)
        (Nat.add_lt_add_left less start)
    exact ⟨count, mem_repetitions_iff.mpr ⟨repeats.least_le, le_longest⟩,
      placement_eq le_longest⟩

/-- The placements at a place are the runs from there on that fit the slot. -/
theorem mem_placementsAt_iff {placement : Placement} {start : Nat} :
    placement ∈ query.placementsAt slot positions start ↔
      ∃ count, query.Fits positions slot ⟨start, count⟩ ∧
        placement = slot.placementOf positions ⟨start, count⟩ := by
  cases start with
  | zero =>
      refine mem_map_repetitions_iff.trans (exists_congr fun count => and_congr_left' ?_)
      constructor
      · intro repeats
        exact ⟨repeats, fun previous _ impossible => absurd impossible (Nat.succ_ne_zero _).symm⟩
      · exact Query.Fits.toRepeats
  | succ previous =>
      rw [Query.placementsAt]
      dsimp only
      split
      case isTrue forbidden =>
          constructor
          · intro member
            cases member
          · rintro ⟨count, fits, -⟩
            rcases (Option.any_eq_true _ _).mp forbidden with ⟨position, standing, excepted⟩
            rw [fits.unexcepted previous position rfl standing] at excepted
            cases excepted
      case isFalse allowed =>
          rw [mem_map_repetitions_iff]
          refine exists_congr fun count => and_congr_left' ?_
          constructor
          · intro repeats
            refine ⟨repeats, fun earlier position equal standing => ?_⟩
            rcases Nat.succ.inj equal with rfl
            rw [standing] at allowed
            exact Bool.eq_false_iff.mpr allowed
          · exact Query.Fits.toRepeats

/-- The placements of a slot are the runs that fit it and may begin where they do. -/
theorem mem_placements_iff {placement : Placement} :
    placement ∈ query.placements slot before allowance positions place ↔
      ∃ run, Lands positions before allowance place run.start ∧ query.Fits positions slot run ∧
        placement = slot.placementOf positions run := by
  rw [Query.placements, List.mem_flatMap]
  constructor
  · rintro ⟨landing, landingMember, member⟩
    rcases mem_landings_iff.mp landingMember with ⟨-, lands⟩
    rcases mem_placementsAt_iff.mp member with ⟨count, fits, rfl⟩
    exact ⟨⟨landing, count⟩, lands, fits, rfl⟩
  · rintro ⟨run, lands, fits, rfl⟩
    exact ⟨run.start, mem_landings_iff.mpr ⟨fits.start_lt_length, lands⟩,
      mem_placementsAt_iff.mpr ⟨run.count, fits, rfl⟩⟩

theorem Slot.stop_placementOf (repeats : query.Repeats positions slot run) :
    (slot.placementOf positions run).stop = run.stop := by
  have inside := repeats.stop_le_length
  rw [Run.stop] at inside
  have enough : run.count ≤ positions.length - run.start := by omega
  rw [placementOf, Placement.stop, List.length_map, List.length_take, List.length_drop,
    Nat.min_eq_left enough]
  rfl

end PhraseRules
