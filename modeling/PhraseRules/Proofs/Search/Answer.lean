import Mathlib.Data.List.Chain
import PhraseRules.Proofs.Search.Memory
import PhraseRules.Proofs.Search.Session

/-!
# The answer of a query

For a query without references the ways that a search goes through are exactly the valid
assignments.  Its answer is therefore an occurrence that reaches as far as any of them, and there is
none only if there are no valid assignments.

The invariant is `Query.StandsBehind`, which says what a node knows of the slots filled so far.
-/

namespace PhraseRules

namespace Query

variable {query : Query} {positions : List Position} {start index : Nat} {node next : SearchNode}
  {before later : List (Nat × Run)} {slot : Slot} {run : Run} {assignment : Assignment}
  {remaining : List (Slot × Option AgreementGroup)}

/-! ## Runs that follow each other -/

/-- The runs follow each other from a place on. -/
def IsWay (query : Query) (positions : List Position) (start : Nat)
    (filled : List (Nat × Run)) : Prop :=
  (∀ first ∈ filled.head?, first.2.start = start) ∧ filled.IsChain (query.Follows positions)

/-- A run may begin behind the ones before; the first one begins at the place. -/
def MayBegin (query : Query) (positions : List Position) (start : Nat)
    (before : List (Nat × Run)) (entry : Nat × Run) : Prop :=
  match before.getLast? with
  | none => entry.2.start = start
  | some former => query.Follows positions former entry

theorem isWay_concat_iff {entry : Nat × Run} :
    query.IsWay positions start (before ++ [entry]) ↔
      query.IsWay positions start before ∧ query.MayBegin positions start before entry := by
  simp only [IsWay, MayBegin, List.isChain_append]
  cases before with
  | nil => simp
  | cons first others =>
      rw [List.getLast?_eq_some_getLast (List.cons_ne_nil first others)]
      simp [and_assoc]

theorem IsWay.of_append (way : query.IsWay positions start (before ++ later)) :
    query.IsWay positions start before := by
  refine ⟨fun first found => way.1 first ?_, way.2.left_of_append⟩
  rw [List.head?_append, Option.mem_def.mp found]
  rfl

/-! ## What a node knows -/

/-- What a node knows of the slots before `index`, which were filled as given. -/
structure StandsBehind (query : Query) (positions : List Position) (start : Nat)
    (before : List (Nat × Run)) (index : Nat) (node : SearchNode) : Prop where
  earlier : ∀ entry ∈ before, entry.1 < index
  isAt : match before.getLast? with
    | none => IsAt node start (some 0) none
    | some former => ∃ slot, query.slots[former.1]? = some slot ∧
        IsAt node former.2.stop slot.skip (some former.1)
  bound : boundPlaces node.bindings = Assignment.placesOf before
  session : query.SessionHolds positions before index node.session

namespace StandsBehind

theorem initial (query : Query) (positions : List Position) (start : Nat) :
    query.StandsBehind positions start [] 0 (nodeAt start) where
  earlier := fun _ member => by cases member
  isAt := ⟨rfl, rfl, rfl⟩
  bound := rfl
  session := fun _ _ => rfl

/-- A run may begin where the search lets it exactly if it follows the runs so far. -/
theorem lands_iff (standsBehind : query.StandsBehind positions start before index node) :
    Lands positions (node.lastSlot.bind (query.slots[·]?)) node.allowance node.place run.start ↔
      query.MayBegin positions start before (index, run) := by
  have isAt := standsBehind.isAt
  rw [MayBegin]
  cases last_eq : before.getLast? with
  | none =>
      rw [last_eq] at isAt
      rcases isAt with ⟨place_eq, allowance_eq, lastSlot_eq⟩
      rw [place_eq, allowance_eq, lastSlot_eq]
      exact lands_start_iff
  | some former =>
      rw [last_eq] at isAt
      rcases isAt with ⟨slot, found, place_eq, allowance_eq, lastSlot_eq⟩
      rw [place_eq, allowance_eq, lastSlot_eq]
      simp [Follows, found]

/-- The node behind a run in the slot. -/
theorem fill (standsBehind : query.StandsBehind positions start before index node)
    (standing : query.slots[index]? = some slot) (repeats : query.Repeats positions slot run)
    {session : Option AgreementSession}
    (holds : query.SessionHolds positions (before ++ [(index, run)]) index session)
    (left : leaveSlot (query.groupAt index) index
      (nodeBehind index slot (slot.placementOf positions run) node session) = some next) :
    query.StandsBehind positions start (before ++ [(index, run)]) (index + 1) next := by
  rcases leaveSlot_keeps left with ⟨⟨place_eq, allowance_eq, lastSlot_eq⟩, bound_eq⟩
  have earlier : ∀ entry ∈ before ++ [(index, run)], entry.1 < index + 1 := by
    intro entry member
    rcases List.mem_append.mp member with member | member
    · exact Nat.lt_succ_of_lt (standsBehind.earlier entry member)
    · rw [List.mem_singleton.mp member]
      exact Nat.lt_succ_self index
  refine ⟨earlier, ?_, ?_, holds.leave (fun entry member => Nat.le_of_lt_succ
    (earlier entry member)) left⟩
  · rw [List.getLast?_concat]
    refine ⟨slot, standing, ?_, allowance_eq, lastSlot_eq⟩
    rw [place_eq]
    exact Slot.stop_placementOf repeats
  · rw [bound_eq, boundPlaces_nodeBehind repeats, standsBehind.bound, Assignment.placesOf,
      Assignment.placesOf, List.flatMap_append, List.flatMap_singleton]

/-- The node behind the slot when it is left out. -/
theorem leaveOut (standsBehind : query.StandsBehind positions start before index node)
    (left : leaveSlot (query.groupAt index) index node = some next) :
    query.StandsBehind positions start before (index + 1) next := by
  rcases leaveSlot_keeps left with ⟨⟨place_eq, allowance_eq, lastSlot_eq⟩, bound_eq⟩
  refine ⟨fun entry member => Nat.lt_succ_of_lt (standsBehind.earlier entry member), ?_,
    bound_eq.trans standsBehind.bound, standsBehind.session.leave
      (fun entry member => Nat.le_of_lt (standsBehind.earlier entry member)) left⟩
  simp only [IsAt, place_eq, allowance_eq, lastSlot_eq]
  exact standsBehind.isAt

end StandsBehind

/-! ## Ways to fill the slots are valid -/

/-- Words behind the last slot of a group do not matter to it. -/
theorem agreesAsAsked_append_iff {group : AgreementGroup}
    (behind : ∀ entry ∈ later, group.last < entry.1) :
    query.AgreesAsAsked positions group (before ++ later) ↔
      query.AgreesAsAsked positions group before := by
  have outside : query.wordsOf positions group later = [] := by
    apply wordsOf_eq_nil
    intro entry member
    have := behind entry member
    rw [Bool.eq_false_iff, ne_eq, AgreementGroup.contains_iff]
    omega
  rw [AgreesAsAsked, AgreesAsAsked, wordsOf_append, outside, List.append_nil]

/-- A slot can be left if the words agree of the group that ends there, whatever follows. -/
theorem SessionHolds.isSome_leaveSlot_append_iff
    (defined : ∀ table, query.table = some table → table.Defined)
    (holds : query.SessionHolds positions before index node.session) (assignment : Assignment) :
    (leaveSlot (query.groupAt index) index node).isSome ↔
      ∀ group, some group ∈ query.groups → group.last = index →
        query.AgreesAsAsked positions group (before ++ assignment.filledFrom (index + 1)) := by
  rw [holds.isSome_leaveSlot_iff defined]
  constructor
  · rintro agrees group member rfl
    exact (agreesAsAsked_append_iff fun entry => Assignment.le_of_mem_filledFrom).mpr
      (agrees group (groupAt_last member) rfl)
  · rintro agrees group belongs rfl
    exact (agreesAsAsked_append_iff fun entry => Assignment.le_of_mem_filledFrom).mp
      (agrees group (mem_groups_of_groupAt belongs) rfl)

theorem SessionHolds.exists_leaveSlot
    (defined : ∀ table, query.table = some table → table.Defined)
    (holds : query.SessionHolds positions before index node.session)
    (agrees : ∀ group, some group ∈ query.groups →
      query.AgreesAsAsked positions group (before ++ assignment.filledFrom (index + 1))) :
    ∃ next, leaveSlot (query.groupAt index) index node = some next := by
  apply Option.isSome_iff_exists.mp
  rw [holds.isSome_leaveSlot_append_iff defined assignment]
  intro group member _
  exact agrees group member

/-- The words of a group that agree in the end agree from the first one on. -/
theorem AgreesAsAsked.agree_of_append {group : AgreementGroup}
    (agrees : query.AgreesAsAsked positions group (before ++ later))
    (words : query.wordsOf positions group before ≠ [])
    (asked : group.agreement.negated = false) :
    query.Agree group (query.wordsOf positions group before) := by
  rw [AgreesAsAsked, wordsOf_append] at agrees
  exact ((agrees (List.append_ne_nil_of_left_ne_nil words _)).mpr asked).of_append

/-- What holds at the end of a way to fill the slots from a node on. -/
structure EndsAs (query : Query) (positions : List Position) (start index : Nat)
    (before : List (Nat × Run)) (assignment : Assignment) (last : SearchNode) : Prop where
  admitted : List.Forall₂ (query.Admits positions) (query.slots.drop index) assignment
  way : query.IsWay positions start (before ++ assignment.filledFrom index)
  agrees : ∀ group, some group ∈ query.groups → index ≤ group.last →
    query.AgreesAsAsked positions group (before ++ assignment.filledFrom index)
  standsBehind : query.StandsBehind positions start (before ++ assignment.filledFrom index)
    (index + assignment.length) last

theorem Fills.endsAs (noReferences : ∀ slot ∈ query.slots, slot.reference = none)
    (defined : ∀ table, query.table = some table → table.Defined) {last : SearchNode}
    (fills : query.Fills positions remaining index node assignment last)
    (rest : query.slotsFrom index = remaining)
    (standsBehind : query.StandsBehind positions start before index node)
    (way : query.IsWay positions start before) :
    query.EndsAs positions start index before assignment last := by
  induction fills generalizing before with
  | @done index node =>
      have beyond := slotsFrom_eq_nil rest
      refine ⟨?_, ?_, ?_, ?_⟩
      · rw [List.drop_eq_nil_iff.mpr beyond]
        exact .nil
      · simpa [Assignment.filledFrom] using way
      · intro group member le_last
        have found := groups_getElem?_eq_of_groupAt (groupAt_last member)
        have less := (List.getElem?_eq_some_iff.mp found).1
        rw [length_groups] at less
        omega
      · simpa [Assignment.filledFrom] using standsBehind
  | @fill declared slot group later index node next last run session assignment resolved lands fits
      extended left onward induction =>
      rcases slotsFrom_eq_cons rest with ⟨standing, rfl, restLater⟩
      rw [resolve_of_reference_eq_none (noReferences declared (List.mem_of_getElem? standing))]
        at resolved
      rcases Option.some.inj (Except.ok.inj resolved) with rfl
      -- the way onward starts behind the run, whose words are now in the session of its group
      have holdsBehind : query.SessionHolds positions (before ++ [(index, run)]) index
          (nodeBehind index declared (declared.placementOf positions run) node session).session :=
        (standsBehind.session.extend defined standing fits.toRepeats extended).2 session rfl
      have ends := induction restLater (standsBehind.fill standing fits.toRepeats holdsBehind left)
        (isWay_concat_iff.mpr ⟨way, standsBehind.lands_iff.mp lands⟩)
      have filled_eq : before ++ Assignment.filledFrom index (some run :: assignment) =
          before ++ [(index, run)] ++ assignment.filledFrom (index + 1) :=
        List.append_cons _ _ _
      refine ⟨?_, ?_, ?_, ?_⟩
      · rw [drop_slots_eq_cons standing]
        exact .cons fits ends.admitted
      · rw [filled_eq]
        exact ends.way
      · intro group member le_last
        rw [filled_eq]
        rcases Nat.eq_or_lt_of_le le_last with last_eq | less
        · -- the group ends here, and the search went on
          exact (holdsBehind.isSome_leaveSlot_append_iff defined assignment).mp
            (by rw [left]; rfl) group member last_eq.symm
        · exact ends.agrees group member less
      · rw [filled_eq, List.length_cons, Nat.add_comm assignment.length, ← Nat.add_assoc]
        exact ends.standsBehind
  | @leaveOut declared slot group later index node next last assignment resolved optional left
      onward induction =>
      rcases slotsFrom_eq_cons rest with ⟨standing, rfl, restLater⟩
      rw [resolve_of_reference_eq_none (noReferences declared (List.mem_of_getElem? standing))]
        at resolved
      rcases Option.some.inj (Except.ok.inj resolved) with rfl
      have ends := induction restLater (standsBehind.leaveOut left) way
      refine ⟨?_, ends.way, ?_, ?_⟩
      · rw [drop_slots_eq_cons standing]
        exact .cons optional ends.admitted
      · intro group member le_last
        rcases Nat.eq_or_lt_of_le le_last with last_eq | less
        · exact (standsBehind.session.isSome_leaveSlot_append_iff defined assignment).mp
            (by rw [left]; rfl) group member last_eq.symm
        · exact ends.agrees group member less
      · rw [List.length_cons, Nat.add_comm assignment.length, ← Nat.add_assoc]
        exact ends.standsBehind

/-! ## Valid assignments are ways to fill the slots -/

open Outcome

/--
A search that does not fail goes through every assignment that is valid together with the slots
filled before.
-/
theorem exists_fills (noReferences : ∀ slot ∈ query.slots, slot.reference = none)
    (defined : ∀ table, query.table = some table → table.Defined)
    (rest : query.slotsFrom index = remaining)
    (standsBehind : query.StandsBehind positions start before index node)
    (admitted : List.Forall₂ (query.Admits positions) (query.slots.drop index) assignment)
    (way : query.IsWay positions start (before ++ assignment.filledFrom index))
    (agrees : ∀ group, some group ∈ query.groups →
      query.AgreesAsAsked positions group (before ++ assignment.filledFrom index))
    {met : List Occurrence}
    (offered : query.offers positions start remaining index node = .ok met) :
    ∃ last, query.Fills positions remaining index node assignment last := by
  induction remaining generalizing index node before assignment met with
  | nil =>
      rw [List.drop_eq_nil_iff.mpr (slotsFrom_eq_nil rest)] at admitted
      cases admitted
      exact ⟨node, .done⟩
  | cons first later induction =>
      rcases first with ⟨slot, group⟩
      rcases slotsFrom_eq_cons rest with ⟨standing, rfl, restLater⟩
      have resolved : query.resolve index slot positions node.bindings = .ok (some slot) :=
        resolve_of_reference_eq_none (noReferences slot (List.mem_of_getElem? standing)) _ _
      rcases (offers_cons_eq_ok_iff resolved).mp offered with
        ⟨placed, omitted, placed_eq, omitted_eq, -⟩
      rw [drop_slots_eq_cons standing] at admitted
      cases admitted with
      | @cons _ filling _ assignment admits admitted =>
          cases filling with
          | none =>
              have optional : slot.least = 0 := admits
              rcases standsBehind.session.exists_leaveSlot defined agrees with ⟨next, left⟩
              rw [offersOfOmission, offersBehind, if_pos optional, left] at omitted_eq
              rcases induction restLater (standsBehind.leaveOut left) admitted way agrees omitted_eq
                  with
                ⟨last, fills⟩
              exact ⟨last, .leaveOut resolved optional left fills⟩
          | some run =>
              have fits : query.Fits positions slot run := admits
              have filled_eq : before ++ Assignment.filledFrom index (some run :: assignment) =
                  before ++ [(index, run)] ++ Assignment.filledFrom (index + 1) assignment :=
                List.append_cons _ _ _
              rw [filled_eq] at way
              simp only [filled_eq] at agrees
              have lands := standsBehind.lands_iff.mpr (isWay_concat_iff.mp way.of_append).2
              rcases exists_of_forall₂ (mapM_eq_ok_iff.mp placed_eq) (mem_placements_iff.mpr ⟨run,
                  lands, fits, rfl⟩) with
                ⟨found, -, found_eq⟩
              rcases bind_eq_ok_iff.mp found_eq with ⟨extended, extended_eq, found_eq⟩
              rcases standsBehind.session.extend defined standing fits.toRepeats extended_eq with
                ⟨extends_iff, holdsThen⟩
              -- a group that agrees in the end agrees so far, so its session takes the run in
              have agreeSoFar (group : AgreementGroup) (belongs : query.groupAt index = some group)
                  (asked : group.agreement.negated = false) :
                  query.Agree group (query.wordsOf positions group (before ++ [(index, run)])) :=
                (agrees group (mem_groups_of_groupAt belongs)).agree_of_append
                  (wordsOf_concat_ne_nil belongs standing fits.toRepeats) asked
              rcases Option.isSome_iff_exists.mp (extends_iff.mpr agreeSoFar) with ⟨session, rfl⟩
              have holdsBehind : query.SessionHolds positions (before ++ [(index, run)]) index
                  (nodeBehind index slot (slot.placementOf positions run) node session).session :=
                holdsThen session rfl
              rcases holdsBehind.exists_leaveSlot defined agrees with ⟨next, left⟩
              dsimp only at found_eq
              rw [offersBehind, left] at found_eq
              rcases induction restLater (standsBehind.fill standing fits.toRepeats holdsBehind
                  left) admitted way agrees found_eq with
                ⟨last, fills⟩
              exact ⟨last, .fill resolved lands fits extended_eq left fills⟩

/-! ## The answer -/

/-- A way to fill the slots leads forward, past every run on it. -/
theorem Fills.place_le {last : SearchNode}
    (fills : query.Fills positions remaining index node assignment last) :
    node.place ≤ last.place ∧
      (assignment.filledFrom index ≠ [] → node.place < last.place) := by
  induction fills with
  | done => exact ⟨Nat.le_refl _, fun filled => absurd rfl filled⟩
  | @fill _ _ _ _ _ _ next _ run _ _ resolved lands fits extended left onward induction =>
      have place_eq : next.place = run.stop :=
        (leaveSlot_keeps left).1.1.trans (Slot.stop_placementOf fits.toRepeats)
      have le_start := lands.le_landing
      have positive := fits.least_le
      have le_last := induction.1
      rw [place_eq, Run.stop] at le_last
      exact ⟨by omega, fun _ => by omega⟩
  | leaveOut resolved optional left onward induction =>
      rw [(leaveSlot_keeps left).1.1] at induction
      exact induction

section Spec

variable (noReferences : ∀ slot ∈ query.slots, slot.reference = none)
  (defined : ∀ table, query.table = some table → table.Defined)

include noReferences defined

/-- A way to fill the slots that gets somewhere is a valid assignment, and ends where it does. -/
theorem Fills.isValid {last : SearchNode}
    (fills : query.Fills positions (query.slotsFrom 0) 0 (nodeAt start) assignment last)
    (less : start < last.place) :
    assignment.IsValid query positions start ∧ assignment.stop? = some last.place ∧
      Assignment.placesOf assignment.filled = boundPlaces last.bindings := by
  have ends := fills.endsAs noReferences defined rfl (.initial query positions start)
    ⟨fun _ absent => (Option.not_mem_none _ absent).elim, List.IsChain.nil⟩
  have filled_eq : [] ++ Assignment.filledFrom 0 assignment = assignment.filled := rfl
  rcases ends with ⟨admitted, way, agrees, standsBehind⟩
  rw [filled_eq] at way standsBehind
  obtain ⟨former, last_eq⟩ : ∃ former, assignment.filled.getLast? = some former := by
    cases last_eq : assignment.filled.getLast? with
    | some former => exact ⟨former, rfl⟩
    | none =>
        have isAt := standsBehind.isAt
        rw [last_eq] at isAt
        exact absurd isAt.1 (Nat.ne_of_gt less)
  refine ⟨⟨admitted, ?_, way.2, fun group member => agrees group member (Nat.zero_le _)⟩, ?_,
    standsBehind.bound.symm⟩
  · cases first_eq : assignment.filled.head? with
    | none =>
        rw [List.head?_eq_none_iff.mp first_eq] at last_eq
        cases last_eq
    | some first => exact congrArg some (way.1 first first_eq)
  · have isAt := standsBehind.isAt
    rw [last_eq] at isAt
    rcases isAt with ⟨slot, -, place_eq, -⟩
    rw [Assignment.stop?, last_eq, place_eq]
    rfl

/-- A search that does not fail goes through every valid assignment. -/
theorem exists_fills_of_isValid (valid : assignment.IsValid query positions start)
    {met : List Occurrence}
    (offered : query.offers positions start (query.slotsFrom 0) 0 (nodeAt start) = .ok met) :
    ∃ last, query.Fills positions (query.slotsFrom 0) 0 (nodeAt start) assignment last ∧
      start < last.place := by
  have begins := valid.begins
  have way : query.IsWay positions start assignment.filled := by
    refine ⟨fun first found => ?_, valid.follows⟩
    rw [Option.mem_def.mp found] at begins
    exact Option.some.inj begins
  have filled : assignment.filled ≠ [] := by
    intro empty
    rw [empty] at begins
    cases begins
  rcases exists_fills noReferences defined rfl (.initial query positions start) valid.admitted way
      valid.agrees offered with
    ⟨last, fills⟩
  exact ⟨last, fills, fills.place_le.2 filled⟩

/-- A search that does not fail finds an occurrence if there is a valid assignment. -/
theorem exists_occurrenceAt?_of_isValid {sentence : Sentence} (inside : start < sentence.length)
    (valid : assignment.IsValid query sentence.positions start) {met : List Occurrence}
    (offered : query.offers sentence.positions start (query.slotsFrom 0) 0 (nodeAt start) =
      .ok met) :
    ∃ occurrence, query.occurrenceAt? sentence start = .ok (some occurrence) := by
  have searched : ¬(query.slots.isEmpty || decide (start ≥ sentence.length)) = true := by
    rw [Bool.or_eq_true, List.isEmpty_iff, decide_eq_true_eq, not_or]
    exact ⟨valid.slots_ne_nil, Nat.not_le_of_lt inside⟩
  rw [occurrenceAt?_eq_offers, if_neg searched, offered, Outcome.map_ok]
  rcases exists_fills_of_isValid noReferences defined valid offered with ⟨last, fills, less⟩
  have member := (mem_offers_iff offered).mpr ⟨assignment, last, fills, less, rfl⟩
  cases kept : met.foldl SearchState.keep none with
  | some occurrence => exact ⟨occurrence, rfl⟩
  | none =>
      rw [SearchState.foldl_keep_eq_none_iff.mp kept] at member
      cases member

end Spec

/--
The answer of a query without references.  If the search does not fail, it finds no occurrence at a
place exactly if there is no valid assignment from there on.  Otherwise the occurrence begins there,
it ends where a valid assignment does whose places are bound, and no valid assignment reaches
farther.
-/
theorem occurrenceAt?_reaches_farthest
    (noReferences : ∀ slot ∈ query.slots, slot.reference = none)
    (defined : ∀ table, query.table = some table → table.Defined) {sentence : Sentence}
    (inside : start < sentence.length) {answer : Option Occurrence}
    (answered : query.occurrenceAt? sentence start = .ok answer) :
    (answer = none ↔
        ¬∃ assignment : Assignment, assignment.IsValid query sentence.positions start) ∧
      ∀ occurrence, answer = some occurrence →
        occurrence.start = start ∧
          (∃ assignment : Assignment, assignment.IsValid query sentence.positions start ∧
            assignment.stop? = some occurrence.stop ∧
              Assignment.placesOf assignment.filled = boundPlaces occurrence.bindings) ∧
            ∀ assignment : Assignment, assignment.IsValid query sentence.positions start →
              ∃ stop, assignment.stop? = some stop ∧ stop ≤ occurrence.stop := by
  rw [occurrenceAt?_eq_offers] at answered
  split at answered
  case isTrue noSearch =>
      rcases Except.ok.inj answered with rfl
      refine ⟨iff_of_true rfl ?_, fun _ absent => by cases absent⟩
      rw [Bool.or_eq_true, decide_eq_true_eq, List.isEmpty_iff] at noSearch
      rintro ⟨assignment, valid⟩
      exact valid.slots_ne_nil (noSearch.resolve_right (Nat.not_le_of_lt inside))
  case isFalse =>
      rcases Outcome.map_eq_ok_iff.mp answered with ⟨met, offered, rfl⟩
      constructor
      · rw [SearchState.foldl_keep_eq_none_iff]
        constructor
        · rintro rfl ⟨assignment, valid⟩
          rcases exists_fills_of_isValid noReferences defined valid offered with ⟨last, fills, less⟩
          cases (mem_offers_iff offered).mpr ⟨assignment, last, fills, less, rfl⟩
        · intro noneValid
          apply List.eq_nil_iff_forall_not_mem.mpr
          intro occurrence member
          rcases (mem_offers_iff offered).mp member with ⟨assignment, last, fills, less, -⟩
          exact noneValid ⟨assignment, (fills.isValid noReferences defined less).1⟩
      · intro occurrence kept
        rcases SearchState.foldl_keep_eq_some kept with ⟨earlier, later, rfl, shorter, noLonger⟩
        rcases (mem_offers_iff offered).mp (List.mem_append_right _ List.mem_cons_self) with
          ⟨assignment, last, fills, less, rfl⟩
        refine ⟨rfl, ⟨assignment, fills.isValid noReferences defined less⟩, ?_⟩
        intro other valid
        rcases exists_fills_of_isValid noReferences defined valid offered with
          ⟨otherLast, otherFills, otherLess⟩
        refine ⟨otherLast.place, (otherFills.isValid noReferences defined otherLess).2.1, ?_⟩
        have member := (mem_offers_iff offered).mpr ⟨other, otherLast, otherFills, otherLess, rfl⟩
        rcases List.mem_append.mp member with member | member
        · exact Nat.le_of_lt (shorter _ member)
        · rcases List.mem_cons.mp member with equal | member
          · exact Nat.le_of_eq (congrArg Occurrence.stop equal)
          · exact noLonger _ member

/-- An article agrees with a noun one word further; no valid assignment reaches behind the noun. -/
theorem occurrenceAt?_reaches_farthest_of_number :
    ∃ (table : FeatureTable) (slots : List Slot),
      (FeatureTable.define [] "number" "sg" (.tagged "sg") >>= fun singular =>
        FeatureTable.define singular "number" "pl" (.tagged "pl")) = .ok table ∧
      [{ SlotSpec.word "la" with
          caseSensitive := true, skip := 1, agreement := some ⟨[("number", [])], false⟩ },
        { SlotSpec.headword "crisis" with
          caseSensitive := true, agreement := some ⟨[("number", [])], false⟩ }].mapM
        SlotSpec.compile = .ok slots ∧
      let query : Query := ⟨slots, some table, none, .plain "es" "Español", .respected⟩
      let sentence : Sentence :=
        ⟨[.opening, (Position.ofWord "la" 0).addReading (.tagged "la" "el" "sg"),
          .ofWord "gran" 3, ((Position.ofWord "crisis" 8).addReading
            (.tagged "crisis" "crisis" "pl")).addReading (.tagged "crisis" "crisis" "sg")]⟩
      query.occurrenceAt? sentence 1 = .ok (some ⟨1, 4, [⟨0, 1, [0]⟩, ⟨1, 3, [1]⟩]⟩) ∧
        (∃ assignment : Assignment, assignment.IsValid query sentence.positions 1) ∧
          ∀ assignment : Assignment, assignment.IsValid query sentence.positions 1 →
            ∃ stop, assignment.stop? = some stop ∧ stop ≤ 4 := by
  have defined : FeatureTable.Defined _ :=
    .define (.define .empty (rfl : FeatureTable.define [] "number" "sg" (.tagged "sg") = .ok _))
      (rfl : FeatureTable.define _ "number" "pl" (.tagged "pl") = .ok _)
  refine ⟨_, _, rfl, rfl, ?_⟩
  intro query sentence
  have answered :
      query.occurrenceAt? sentence 1 = .ok (some ⟨1, 4, [⟨0, 1, [0]⟩, ⟨1, 3, [1]⟩]⟩) := by
    have groups_eq : query.groups = List.replicate 2 (some ⟨0, 1, ⟨[("number", [])], false⟩⟩) := by
      simp [query, groups, groupsFrom, Slot.joinsAgreement]
    rw [occurrenceAt?_eq_offers, slotsFrom, groups_eq]
    decide +kernel
  have spec := (occurrenceAt?_reaches_farthest (by decide)
    (fun table table_eq => by cases table_eq; exact defined) (by decide) answered).2 _ rfl
  rcases spec with ⟨-, ⟨assignment, valid, -⟩, farthest⟩
  exact ⟨answered, ⟨assignment, valid⟩, farthest⟩

end Query

end PhraseRules
