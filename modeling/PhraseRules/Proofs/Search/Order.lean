import PhraseRules.Proofs.Search.Filling
import PhraseRules.Proofs.Search.Session

/-!
# The order of the ways through the slots

A search tries the runs of a slot in a fixed order before it leaves the slot out.  What it does at
the first slot where two assignments differ therefore decides which of them it comes to first:
`Assignment.Precedes` says so without referring to a search, and `Query.listsWays_offers` says that
the occurrences that a search meets are those at the ends of the ways through the slots, listed in
this order.
-/

namespace PhraseRules

/-- The place behind a slot that is entered at `place`: behind its run, unless it is left out. -/
def placeBehind (place : Nat) : Option Run → Nat
  | none => place
  | some run => run.stop

/--
The order in which ways to fill one slot behind `place` are tried: runs that skip fewer words come
first, of those that skip as many the longer ones, and last the slot is left out.
-/
inductive IsTriedBefore (place : Nat) : Option Run → Option Run → Prop where
  | skipsFewer {run other : Run} (fewer : run.start - place < other.start - place) :
      IsTriedBefore place (some run) (some other)
  | holdsMore {run other : Run} (same : run.start - place = other.start - place)
      (more : other.count < run.count) : IsTriedBefore place (some run) (some other)
  | isFilled {run : Run} : IsTriedBefore place (some run) none

/-- The order of assignments of the slots behind `place`: the first slot that they do not fill alike
decides. -/
inductive Assignment.Precedes : (place : Nat) → Assignment → Assignment → Prop where
  | here {place : Nat} {filling other : Option Run} {later others : Assignment}
      (before : IsTriedBefore place filling other) :
      Precedes place (filling :: later) (other :: others)
  | behind {place : Nat} {filling : Option Run} {later others : Assignment}
      (precedes : Precedes (placeBehind place filling) later others) :
      Precedes place (filling :: later) (filling :: others)

theorem IsTriedBefore.asymm {place : Nat} {filling other : Option Run}
    (before : IsTriedBefore place filling other) : ¬IsTriedBefore place other filling := by
  intro converse
  cases before with
  | skipsFewer fewer =>
      cases converse with
      | skipsFewer => omega
      | holdsMore => omega
  | holdsMore same more =>
      cases converse with
      | skipsFewer => omega
      | holdsMore => omega
  | isFilled => cases converse

/-- No assignment comes both before and behind another one. -/
theorem Assignment.Precedes.asymm {place : Nat} {assignment other : Assignment}
    (precedes : assignment.Precedes place other) : ¬other.Precedes place assignment := by
  induction precedes with
  | here before =>
      intro converse
      cases converse with
      | here converse => exact before.asymm converse
      | behind => exact before.asymm before
  | behind precedes induction =>
      intro converse
      cases converse with
      | here converse => exact converse.asymm converse
      | behind converse => exact induction converse

/-! ## The order of placements -/

/-- The run of a placement. -/
def Placement.run (placement : Placement) : Run :=
  ⟨placement.start, placement.readings.length⟩

section Placements

variable {query : Query} {slot : Slot} {positions : List Position}

theorem Slot.run_placementOf {run : Run} (repeats : query.Repeats positions slot run) :
    (slot.placementOf positions run).run = run := by
  have stop_eq := stop_placementOf repeats
  rw [Placement.stop, Run.stop] at stop_eq
  exact congrArg (Run.mk run.start) (Nat.add_left_cancel stop_eq)

/-- Places at which a run may begin are listed from left to right. -/
theorem pairwise_landings (before : Option Slot) (allowance : Allowance) (place : Nat)
    (ahead : List Position) :
    (landings before allowance place ahead).Pairwise (· < ·) ∧
      ∀ landing ∈ landings before allowance place ahead, place ≤ landing := by
  induction ahead generalizing allowance place with
  | nil => exact ⟨.nil, fun _ impossible => by cases impossible⟩
  | cons first later induction =>
      rw [landings_cons]
      split
      · exact ⟨.nil, fun _ impossible => by cases impossible⟩
      · split
        · exact ⟨List.pairwise_singleton _ _, fun landing member =>
            Nat.le_of_eq (List.mem_singleton.mp member).symm⟩
        · rcases induction (allowance.map (· - 1)) (place + 1) with ⟨ordered, behind⟩
          refine ⟨List.pairwise_cons.mpr ⟨behind, ordered⟩, fun landing member => ?_⟩
          rcases List.mem_cons.mp member with rfl | member
          · exact Nat.le_refl _
          · exact Nat.le_of_succ_le (behind landing member)

/-- Placements at one place are listed by decreasing length. -/
theorem pairwise_placementsAt (query : Query) (slot : Slot) (positions : List Position)
    (start : Nat) :
    (query.placementsAt slot positions start).Pairwise
      fun placement other => other.run.count < placement.run.count := by
  have ordered (readings : List (List Nat)) :
      ((Query.repetitions slot.least readings.length).map fun count =>
        Placement.mk start (readings.take count)).Pairwise
          fun placement other => other.run.count < placement.run.count := by
    rw [List.pairwise_map, Query.repetitions, List.pairwise_reverse]
    refine List.Pairwise.imp_of_mem (fun fewMember manyMember fewer => ?_) List.pairwise_lt_range'
    have := List.mem_range'_1.mp fewMember
    have := List.mem_range'_1.mp manyMember
    simp only [Placement.run, List.length_take]
    omega
  cases start with
  | zero => exact ordered _
  | succ previous =>
      rw [Query.placementsAt]
      dsimp only
      split
      · exact .nil
      · exact ordered _

theorem start_of_mem_placementsAt {placement : Placement} {start : Nat}
    (member : placement ∈ query.placementsAt slot positions start) :
    placement.run.start = start := by
  rcases mem_placementsAt_iff.mp member with ⟨count, -, rfl⟩
  rfl

/-- The placements of a slot are listed in the order in which its runs are tried. -/
theorem pairwise_placements (query : Query) (slot : Slot) (positions : List Position)
    (before : Option Slot) (allowance : Allowance) (place : Nat) :
    (query.placements slot before allowance positions place).Pairwise
      fun placement other => IsTriedBefore place (some placement.run) (some other.run) := by
  rcases pairwise_landings before allowance place (positions.drop place) with ⟨ordered, behind⟩
  rw [Query.placements, List.pairwise_flatMap]
  constructor
  · intro landing _
    refine (pairwise_placementsAt query slot positions landing).imp_of_mem
      fun {placement other} member otherMember more => .holdsMore ?_ more
    rw [start_of_mem_placementsAt member, start_of_mem_placementsAt otherMember]
  · refine ordered.imp_of_mem fun {landing farther} landingMember _ less placement member
      other otherMember => .skipsFewer ?_
    have := behind landing landingMember
    rw [start_of_mem_placementsAt member, start_of_mem_placementsAt otherMember]
    omega

/-- The placements of a slot are the runs that may fill it, in the order in which they are tried. -/
theorem exists_runs_of_placements (query : Query) (slot : Slot) (positions : List Position)
    (before : Option Slot) (allowance : Allowance) (place : Nat) :
    ∃ runs : List Run,
      query.placements slot before allowance positions place =
          runs.map (slot.placementOf positions) ∧
        (runs.Pairwise fun run other => IsTriedBefore place (some run) (some other)) ∧
          ∀ run, run ∈ runs ↔
            Lands positions before allowance place run.start ∧ query.Fits positions slot run := by
  refine ⟨(query.placements slot before allowance positions place).map Placement.run, ?_,
    List.pairwise_map.mpr (pairwise_placements query slot positions before allowance place), ?_⟩
  · rw [List.map_map]
    refine ((List.map_congr_left fun placement member => ?_).trans (List.map_id _)).symm
    rcases mem_placements_iff.mp member with ⟨run, -, fits, rfl⟩
    rw [Function.comp_apply, Slot.run_placementOf fits.toRepeats]
    rfl
  · intro run
    rw [List.mem_map]
    constructor
    · rintro ⟨placement, member, rfl⟩
      rcases mem_placements_iff.mp member with ⟨run, lands, fits, rfl⟩
      rw [Slot.run_placementOf fits.toRepeats]
      exact ⟨lands, fits⟩
    · rintro ⟨lands, fits⟩
      exact ⟨_, mem_placements_iff.mpr ⟨run, lands, fits, rfl⟩, Slot.run_placementOf fits.toRepeats⟩

end Placements

/-! ## Ways in order -/

/-- What is bound at the end of a way that began at `start`. -/
def SearchNode.occurrenceFrom (node : SearchNode) (start : Nat) : Occurrence :=
  ⟨start, node.place, node.bindings⟩

/--
The occurrences are those at the ends of the ways that meet a condition, each way once, in the order
of the assignments behind `place`.
-/
def ListsWays (isWay : Assignment → SearchNode → Prop) (start place : Nat)
    (met : List Occurrence) : Prop :=
  ∃ ways : List (Assignment × SearchNode),
    met = ways.map (·.2.occurrenceFrom start) ∧
      (∀ assignment last, (assignment, last) ∈ ways ↔ isWay assignment last) ∧
        ways.Pairwise fun former latter => former.1.Precedes place latter.1

namespace ListsWays

variable {isWay isOther : Assignment → SearchNode → Prop} {start place : Nat}
  {met others : List Occurrence}

theorem nil (noWay : ∀ assignment last, ¬isWay assignment last) :
    ListsWays isWay start place [] :=
  ⟨[], rfl, fun assignment last => iff_of_false (List.not_mem_nil) (noWay assignment last), .nil⟩

theorem congr (lists : ListsWays isWay start place met)
    (same : ∀ assignment last, isWay assignment last ↔ isOther assignment last) :
    ListsWays isOther start place met := by
  rcases lists with ⟨ways, met_eq, mem_iff, ordered⟩
  exact ⟨ways, met_eq, fun assignment last =>
    (mem_iff assignment last).trans (same assignment last), ordered⟩

theorem append (lists : ListsWays isWay start place met)
    (listsOthers : ListsWays isOther start place others)
    (precede : ∀ assignment last other otherLast, isWay assignment last →
      isOther other otherLast → assignment.Precedes place other) :
    ListsWays (fun assignment last => isWay assignment last ∨ isOther assignment last) start place
      (met ++ others) := by
  rcases lists with ⟨ways, rfl, mem_iff, ordered⟩
  rcases listsOthers with ⟨otherWays, rfl, mem_others_iff, orderedOthers⟩
  refine ⟨ways ++ otherWays, List.map_append.symm, fun assignment last => ?_, ?_⟩
  · rw [List.mem_append, mem_iff, mem_others_iff]
  · refine List.pairwise_append.mpr ⟨ordered, orderedOthers, fun way member other otherMember => ?_⟩
    exact precede _ _ _ _ ((mem_iff way.1 way.2).mp member)
      ((mem_others_iff other.1 other.2).mp otherMember)

/-- Ways behind a slot that is filled in one way, listed with this slot. -/
theorem cons (filling : Option Run)
    (lists : ListsWays isWay start (placeBehind place filling) met) :
    ListsWays (fun assignment last => ∃ later, assignment = filling :: later ∧ isWay later last)
      start place met := by
  rcases lists with ⟨ways, rfl, mem_iff, ordered⟩
  refine ⟨ways.map fun way => (filling :: way.1, way.2), ?_, fun assignment last => ?_, ?_⟩
  · rw [List.map_map]
    rfl
  · simp only [List.mem_map, Prod.mk.injEq, Prod.exists, mem_iff]
    constructor
    · rintro ⟨later, last, way, rfl, rfl⟩
      exact ⟨later, rfl, way⟩
    · rintro ⟨later, rfl, way⟩
      exact ⟨later, last, way, rfl, rfl⟩
  · rw [List.pairwise_map]
    exact ordered.imp .behind

/-- Ways behind a slot for each of several runs that are tried in this order. -/
theorem of_forall₂ {leads : Run → Assignment → SearchNode → Prop} {runs : List Run}
    {placed : List (List Occurrence)}
    (ordered : runs.Pairwise fun run other => IsTriedBefore place (some run) (some other))
    (each : List.Forall₂ (fun run met => ListsWays (leads run) start run.stop met) runs placed) :
    ListsWays (fun assignment last => ∃ run ∈ runs, ∃ later, assignment = some run :: later ∧
      leads run later last) start place placed.flatten := by
  induction each with
  | nil => exact nil fun _ _ ⟨_, impossible, _⟩ => by cases impossible
  | @cons run met runs placed lists _ induction =>
      rcases List.pairwise_cons.mp ordered with ⟨before, ordered⟩
      refine ((cons (some run) lists).append (induction ordered) ?_).congr ?_
      · rintro _ _ _ _ ⟨later, rfl, -⟩ ⟨other, member, others, rfl, -⟩
        exact .here (before other member)
      · intro assignment last
        rw [List.exists_mem_cons_iff]

end ListsWays

namespace Query

open Outcome

variable {query : Query} {positions : List Position} {start index : Nat} {declared slot : Slot}
  {group : Option AgreementGroup} {later : List (Slot × Option AgreementGroup)}
  {node last : SearchNode} {met : List Occurrence} {assignment : Assignment}

/-- The way behind a slot, from a node at which the slot is left. -/
def FillsBehind (query : Query) (positions : List Position) (start : Nat)
    (later : List (Slot × Option AgreementGroup)) (index : Nat) (group : Option AgreementGroup)
    (node : SearchNode) (assignment : Assignment) (last : SearchNode) : Prop :=
  ∃ next, leaveSlot group index node = some next ∧
    query.Fills positions later (index + 1) next assignment last ∧ start < last.place

/-- The way behind a run that is put into a slot, if the words of its group let it. -/
def FillsBehindRun (query : Query) (positions : List Position) (start : Nat)
    (later : List (Slot × Option AgreementGroup)) (index : Nat) (group : Option AgreementGroup)
    (slot : Slot) (node : SearchNode) (run : Run) (assignment : Assignment) (last : SearchNode) :
    Prop :=
  ∃ session, query.extendSession group index slot positions node.session
      ((slot.placementOf positions run).bindings index) = .ok (some session) ∧
    query.FillsBehind positions start later index group
      (nodeBehind index slot (slot.placementOf positions run) node session) assignment last

/-- A way through a slot and those behind it puts one of its runs into the slot or leaves it out. -/
theorem fills_cons_iff
    (resolved : query.resolve index declared positions node.bindings = .ok (some slot)) :
    (query.Fills positions ((declared, group) :: later) index node assignment last ∧
        start < last.place) ↔
      (∃ run, (Lands positions (node.lastSlot.bind (query.slots[·]?)) node.allowance node.place
            run.start ∧ query.Fits positions slot run) ∧
          ∃ others, assignment = some run :: others ∧
            query.FillsBehindRun positions start later index group slot node run others last) ∨
        ∃ others, assignment = none :: others ∧ slot.least = 0 ∧
          query.FillsBehind positions start later index group node others last := by
  constructor
  · rintro ⟨fills, less⟩
    cases fills with
    | fill resolvedHere lands fits extended left onward =>
        rcases Option.some.inj (Except.ok.inj (resolved.symm.trans resolvedHere)) with rfl
        exact Or.inl ⟨_, ⟨lands, fits⟩, _, rfl, _, extended, _, left, onward, less⟩
    | leaveOut resolvedHere optional left onward =>
        rcases Option.some.inj (Except.ok.inj (resolved.symm.trans resolvedHere)) with rfl
        exact Or.inr ⟨_, rfl, optional, _, left, onward, less⟩
  · rintro (⟨run, ⟨lands, fits⟩, _, rfl, _, extended, _, left, onward, less⟩ |
      ⟨_, rfl, optional, _, left, onward, less⟩)
    · exact ⟨.fill resolved lands fits extended left onward, less⟩
    · exact ⟨.leaveOut resolved optional left onward, less⟩

section Step

variable
  (behind : ∀ next found, query.offers positions start later (index + 1) next = .ok found →
    ListsWays (fun assignment last =>
      query.Fills positions later (index + 1) next assignment last ∧ start < last.place) start
      next.place found)

include behind

theorem listsWays_offersBehind
    (offered : offersBehind group index (query.offers positions start later (index + 1)) node =
      .ok met) :
    ListsWays (query.FillsBehind positions start later index group node) start node.place met := by
  rw [offersBehind] at offered
  cases left : leaveSlot group index node with
  | none =>
      rw [left] at offered
      rcases Except.ok.inj offered with rfl
      refine .nil ?_
      rintro assignment last ⟨next, impossible, -⟩
      rw [left] at impossible
      cases impossible
  | some next =>
      rw [left] at offered
      rw [← (leaveSlot_keeps left).1.1]
      exact (behind next met offered).congr fun assignment last => by simp [FillsBehind, left]

theorem listsWays_offersOfPlacement {run : Run} (fits : query.Fits positions slot run)
    (offered : query.offersOfPlacement group index slot positions node
      (query.offers positions start later (index + 1)) (slot.placementOf positions run) =
        .ok met) :
    ListsWays (query.FillsBehindRun positions start later index group slot node run) start run.stop
      met := by
  rcases bind_eq_ok_iff.mp offered with ⟨extended, extended_eq, offered⟩
  cases extended with
  | none =>
      rcases Except.ok.inj offered with rfl
      refine .nil ?_
      rintro assignment last ⟨session, impossible, -⟩
      cases extended_eq.symm.trans impossible
  | some session =>
      rw [← Slot.stop_placementOf fits.toRepeats]
      refine (listsWays_offersBehind behind offered).congr fun assignment last => ?_
      simp [FillsBehindRun, extended_eq]

theorem listsWays_offersOfOmission
    (offered : offersOfOmission group index slot node
      (query.offers positions start later (index + 1)) = .ok met) :
    ListsWays (fun assignment last => ∃ others, assignment = none :: others ∧ slot.least = 0 ∧
      query.FillsBehind positions start later index group node others last) start node.place
        met := by
  refine ListsWays.cons none ?_
  rw [offersOfOmission] at offered
  split at offered
  case isTrue optional =>
      exact (listsWays_offersBehind behind offered).congr fun _ _ => (and_iff_right optional).symm
  case isFalse required =>
      rcases Except.ok.inj offered with rfl
      exact .nil fun _ _ way => required way.1

end Step

/-- A search meets the occurrences at the ends of the ways through the slots in their order. -/
theorem listsWays_offers {remaining : List (Slot × Option AgreementGroup)}
    (offered : query.offers positions start remaining index node = .ok met) :
    ListsWays (fun assignment last =>
      query.Fills positions remaining index node assignment last ∧ start < last.place) start
      node.place met := by
  induction remaining generalizing index node met with
  | nil =>
      rcases Except.ok.inj offered with rfl
      have fills_iff (assignment : Assignment) (last : SearchNode) :
          query.Fills positions [] index node assignment last ↔ assignment = [] ∧ last = node := by
        constructor
        · intro fills
          cases fills
          exact ⟨rfl, rfl⟩
        · rintro ⟨rfl, rfl⟩
          exact .done
      split
      case isTrue less =>
          refine ⟨[([], node)], rfl, fun assignment last => ?_, List.pairwise_singleton _ _⟩
          simp only [List.mem_singleton, Prod.mk.injEq, fills_iff]
          exact ⟨fun way => ⟨way, way.2 ▸ less⟩, And.left⟩
      case isFalse stays =>
          refine .nil fun assignment last way => ?_
          rw [fills_iff] at way
          exact stays (way.1.2 ▸ way.2)
  | cons first later induction =>
      rcases first with ⟨declared, group⟩
      have behind (next : SearchNode) (found : List Occurrence)
          (offered : query.offers positions start later (index + 1) next = .ok found) :=
        induction offered
      rcases bind_eq_ok_iff.mp offered with ⟨resolved?, resolved, continued⟩
      cases resolved? with
      | none =>
          rcases Except.ok.inj continued with rfl
          refine .nil ?_
          rintro assignment last ⟨fills, -⟩
          cases fills with
          | fill other => cases resolved.symm.trans other
          | leaveOut other => cases resolved.symm.trans other
      | some slot =>
          rcases (offers_cons_eq_ok_iff resolved).mp offered with
            ⟨placed, omitted, placed_eq, omitted_eq, rfl⟩
          obtain ⟨runs, runs_eq, ordered, mem_iff⟩ := exists_runs_of_placements query slot positions
            (node.lastSlot.bind (query.slots[·]?)) node.allowance node.place
          rw [placementsFrom, runs_eq, List.mapM_map, mapM_eq_ok_iff] at placed_eq
          have each : List.Forall₂ (fun run met => ListsWays
              (query.FillsBehindRun positions start later index group slot node run) start run.stop
                met) runs placed := by
            obtain ⟨length_eq, offeredAt⟩ := List.forall₂_iff_get.mp placed_eq
            refine List.forall₂_iff_get.mpr ⟨length_eq, fun offset inside insidePlaced => ?_⟩
            have fits := ((mem_iff _).mp (List.get_mem runs ⟨offset, inside⟩)).2
            exact listsWays_offersOfPlacement behind fits (offeredAt offset inside insidePlaced)
          refine ((ListsWays.of_forall₂ ordered each).append
            (listsWays_offersOfOmission behind omitted_eq) ?_).congr ?_
          · rintro _ _ _ _ ⟨run, -, others, rfl, -⟩ ⟨_, rfl, -⟩
            exact .here .isFilled
          · intro assignment last
            rw [fills_cons_iff resolved]
            simp only [mem_iff]

end Query

end PhraseRules
