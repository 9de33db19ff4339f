import PhraseRules.Proofs.Search.Farthest
import PhraseRules.Proofs.Search.Settled
import PhraseRules.Proofs.Sentence.Faultless

/-!
# What is bound in an occurrence

The invariant `Query.BoundSoFar` says of every node of a search by which readings the words so far
are bound, whatever the slots refer to.  With it `Query.readings_of_bindings` tells the readings of
an occurrence: those that fill the slot, less the ones that its group has dropped; only a neutral
word of a group that asks for agreement is left with all the readings of its position.
-/

namespace PhraseRules

namespace Query

variable {query : Query} {positions : List Position} {bound added : List Binding}
  {binding : Binding} {index : Nat} {group : AgreementGroup} {declared slot : Slot}

/-! ## The words of a run -/

/-- The words are bound to one slot, one behind the other within a run. -/
structure AreBoundAt (query : Query) (positions : List Position) (earlier : List Binding)
    (index : Nat) (run : Run) (added : List Binding) : Prop where
  ordered : added.Pairwise (·.position < ·.position)
  slot_eq : ∀ binding ∈ added, binding.slot = index
  start_le : ∀ binding ∈ added, run.start ≤ binding.position
  lt_stop : ∀ binding ∈ added, binding.position < run.stop
  filled : ∀ binding ∈ added, ∃ slot position,
    query.IsBound positions earlier binding slot position

theorem exists_of_mem_bindings {run : Run} (repeats : query.Repeats positions slot run)
    (member : binding ∈ (slot.placementOf positions run).bindings index) :
    binding.slot = index ∧ run.start ≤ binding.position ∧ binding.position < run.stop ∧
      ∃ position, positions[binding.position]? = some position ∧
        query.accepts slot position = true ∧ binding.readings = slot.boundReadings position := by
  rw [Slot.bindings_placementOf repeats] at member
  rcases List.mem_map.mp member with ⟨place, placeMember, rfl⟩
  rcases List.mem_range'_1.mp placeMember with ⟨start_le, less⟩
  rcases repeats.accepted place start_le less with ⟨position, found, accepts⟩
  refine ⟨rfl, start_le, less, position, found, accepts, ?_⟩
  rw [found]
  rfl

theorem areBoundAt_of_repeats {run : Run} {earlier : List Binding}
    (standing : query.slots[index]? = some declared)
    (resolved : query.resolve index declared positions earlier = .ok (some slot))
    (repeats : query.Repeats positions slot run) :
    query.AreBoundAt positions earlier index run
      ((slot.placementOf positions run).bindings index) where
  ordered := by
    rw [Slot.bindings_placementOf repeats, List.pairwise_map]
    exact List.pairwise_lt_range'
  slot_eq := fun _ member => (exists_of_mem_bindings repeats member).1
  start_le := fun _ member => (exists_of_mem_bindings repeats member).2.1
  lt_stop := fun _ member => (exists_of_mem_bindings repeats member).2.2.1
  filled := by
    intro binding member
    obtain ⟨rfl, -, -, position, found, accepts, readings_eq⟩ :=
      exists_of_mem_bindings repeats member
    exact ⟨slot, position, ⟨declared, standing, resolved⟩, found, accepts, readings_eq⟩

/-- Words of a slot join those of its group, with the readings by which they fill the slot. -/
theorem boundWords_concat (slot_eq : ∀ binding ∈ added, binding.slot = index)
    (belongs : query.groupAt index = some group) (neutral : slot.neutral = query.isNeutral index) :
    query.boundWords positions (bound ++ added) group =
      query.boundWords positions bound group ++ added.map (slot.stepOf positions) := by
  have contained := (groupAt_eq_some_iff (mem_groups_of_groupAt belongs)).mp belongs
  have all_inside : added.filter (fun binding => group.contains binding.slot) = added := by
    rw [List.filter_eq_self]
    intro binding member
    rwa [slot_eq binding member]
  rw [boundWords_append]
  congr 1
  rw [boundWords, all_inside]
  apply List.map_congr_left
  intro binding member
  apply Eq.symm
  apply stepOf_eq_wordAt
  rw [slot_eq binding member]
  exact neutral

/-! ## The invariant -/

/--
What a node knows of the words bound so far, when it stands before the slot `index` or has just
filled it, and all of them are bound to slots before `limit`.
-/
structure BoundSoFar (query : Query) (positions : List Position) (bound : List Binding)
    (limit index : Nat) (node : SearchNode) : Prop where
  earlier : ∀ binding ∈ bound, binding.slot < limit
  ordered : bound.Pairwise (·.position < ·.position)
  passed : ∀ binding ∈ bound, binding.position < node.place
  filled : ∀ binding ∈ bound, ∃ slot position,
    query.IsBound positions (query.boundBefore positions bound binding.slot) binding slot position
  bindings_eq : node.bindings = bound.map (query.settled positions bound index)
  session : query.SessionOf (query.boundWords positions bound) index node.session
  agrees : ∀ group, some group ∈ query.groups → group.last < index →
    query.SatisfiesAgreement group (query.boundWords positions bound group)

namespace BoundSoFar

variable {limit start : Nat} {node next : SearchNode} {run : Run} {before : Option Slot}
  {session : Option AgreementSession}

theorem initial (query : Query) (positions : List Position) (start : Nat) :
    query.BoundSoFar positions [] 0 0 (nodeAt start) where
  earlier := fun _ member => by cases member
  ordered := .nil
  passed := fun _ member => by cases member
  filled := fun _ member => by cases member
  bindings_eq := rfl
  session := fun _ _ => rfl
  agrees := fun _ _ impossible => absurd impossible (Nat.not_lt_zero _)

theorem fill (defined : ∀ table, query.table = some table → table.Defined)
    (soFar : query.BoundSoFar positions bound index index node)
    (standing : query.slots[index]? = some declared)
    (resolved : query.resolve index declared positions node.bindings = .ok (some slot))
    (lands : Lands positions before node.allowance node.place run.start)
    (fits : query.Fits positions slot run)
    (extended : query.extendSession (query.groupAt index) index slot positions node.session
      ((slot.placementOf positions run).bindings index) = .ok (some session)) :
    query.BoundSoFar positions (bound ++ (slot.placementOf positions run).bindings index)
      (index + 1) index
      (nodeBehind index slot (slot.placementOf positions run) node session) := by
  have boundAt := areBoundAt_of_repeats standing resolved fits.toRepeats
  have nonempty := bindings_placementOf_ne_nil fits.toRepeats index
  have place_le := lands.le_landing
  have start_le_stop : run.start ≤ run.stop := Nat.le_add_right _ _
  have place_eq : (nodeBehind index slot (slot.placementOf positions run) node session).place =
      run.stop := Slot.stop_placementOf fits.toRepeats
  have bindings_eq :
      (nodeBehind index slot (slot.placementOf positions run) node session).bindings =
        node.bindings ++ (slot.placementOf positions run).bindings index := rfl
  generalize (slot.placementOf positions run).bindings index = added at *
  -- What was settled before the slot is not touched by words of the slot itself.
  have later : ∀ binding ∈ added, index ≤ binding.slot := fun binding member =>
    Nat.le_of_eq (boundAt.slot_eq binding member).symm
  constructor
  case earlier =>
      intro binding member
      rcases List.mem_append.mp member with member | member
      · exact Nat.lt_succ_of_lt (soFar.earlier binding member)
      · exact Nat.lt_succ_of_le (Nat.le_of_eq (boundAt.slot_eq binding member))
  case ordered =>
      refine List.pairwise_append.mpr ⟨soFar.ordered, boundAt.ordered, ?_⟩
      intro former formerMember latter latterMember
      have := soFar.passed former formerMember
      have := boundAt.start_le latter latterMember
      omega
  case passed =>
      intro binding member
      rw [place_eq]
      rcases List.mem_append.mp member with member | member
      · have := soFar.passed binding member
        omega
      · exact boundAt.lt_stop binding member
  case filled =>
      intro binding member
      have slot_le : binding.slot ≤ index := by
        rcases List.mem_append.mp member with member | member
        · exact Nat.le_of_lt (soFar.earlier binding member)
        · exact Nat.le_of_eq (boundAt.slot_eq binding member)
      rw [boundBefore_append fun other otherMember => slot_le.trans (later other otherMember)]
      rcases List.mem_append.mp member with member | member
      · exact soFar.filled binding member
      · rw [boundAt.slot_eq binding member, boundBefore_of_earlier soFar.earlier,
          ← soFar.bindings_eq]
        exact boundAt.filled binding member
  case bindings_eq =>
      have settled_added : added.map (query.settled positions (bound ++ added) index) = added := by
        refine (List.map_congr_left fun binding member => ?_).trans (List.map_id' added)
        apply settled_eq_self
        intro group belongs ended
        have contained := AgreementGroup.contains_iff.mp (contains_of_groupAt belongs)
        have := boundAt.slot_eq binding member
        omega
      rw [bindings_eq, soFar.bindings_eq, List.map_append, settled_added]
      congr 1
      apply List.map_congr_left
      intro binding _
      exact (settled_append later).symm
  case session =>
      refine ((soFar.session.extend defined nonempty extended).2 session rfl).congr ?_
      intro group belongs
      exact (boundWords_concat boundAt.slot_eq belongs (neutral_of_resolve standing resolved)).symm
  case agrees =>
      intro group member ended
      rw [boundWords_append_of_last_lt later ended]
      exact soFar.agrees group member ended

/-- A slot that is left out binds nothing. -/
theorem leaveOut (soFar : query.BoundSoFar positions bound index index node) :
    query.BoundSoFar positions bound (index + 1) index node :=
  { soFar with earlier := fun binding member => Nat.lt_succ_of_lt (soFar.earlier binding member) }

/-- If the words of a group agree, none is left without readings but one that had none. -/
theorem readings_eq_nil (soFar : query.BoundSoFar positions bound limit index node)
    (member : binding ∈ bound) (contained : group.contains binding.slot = true)
    (agree : query.Agree group (query.boundWords positions bound group))
    (nothing : query.agreedReadings group (query.boundWords positions bound group)
      (query.wordAt positions binding) = []) :
    binding.readings = [] := by
  cases neutral : query.isNeutral binding.slot with
  | false =>
      exact absurd nothing (agreedReadings_ne_nil agree (wordAt_mem_boundWords member contained)
        (wordAt_neutral.trans neutral))
  | true =>
      obtain ⟨slot, position, isBound⟩ := soFar.filled binding member
      have sublist := slot.boundReadings_sublist_range position
      rw [isBound.wordAt_of_isNeutral neutral, agreedReadings_addNeutral] at nothing
      rw [nothing, List.sublist_nil] at sublist
      rw [isBound.readings_eq, sublist]

/-- Closing a group that asks for agreement settles its words. -/
theorem bindAgreed_eq (defined : ∀ table, query.table = some table → table.Defined)
    (soFar : query.BoundSoFar positions bound limit index node)
    (belongs : query.groupAt index = some group) (ends : group.last = index)
    (asked : group.agreement.negated = false)
    (agree : query.Agree group (query.boundWords positions bound group))
    {closing : AgreementSession} (session_eq : node.session = some closing) :
    bindAgreed group closing node.bindings =
      bound.map (query.settled positions bound (index + 1)) := by
  have nonempty := soFar.session.ne_nil_of_eq_some belongs session_eq
  rcases soFar.session.exists_of_ne_nil belongs nonempty with
    ⟨table, features, table_eq, resolved, closing_eq⟩
  rcases Option.some.inj (session_eq.symm.trans closing_eq) with rfl
  rw [bindAgreed_run (defined table table_eq) table_eq resolved, soFar.bindings_eq, List.map_map]
  have distinct : ((query.boundWords positions bound group).map fun word =>
      (word.index, query.agreedReadings group (query.boundWords positions bound group)
        word)).Pairwise fun word other => word.1 ≠ other.1 := by
    rw [List.pairwise_map, boundWords, List.pairwise_map]
    refine (soFar.ordered.filter _).imp fun less => ?_
    rw [wordAt_index, wordAt_index]
    exact Nat.ne_of_lt less
  apply List.map_congr_left
  intro binding member
  rw [Function.comp_apply]
  by_cases inside : query.groupAt binding.slot = some group
  case pos =>
      have contained := contains_of_groupAt inside
      have unsettled : query.settled positions bound index binding = binding := by
        apply settled_eq_self
        intro other otherBelongs ended
        rcases Option.some.inj (inside.symm.trans otherBelongs) with rfl
        omega
      rw [unsettled, settled_of_ended inside (by omega) asked]
      exact foldl_rebind_of_mem distinct
        (List.mem_map.mpr ⟨_, wordAt_mem_boundWords member contained, rfl⟩) wordAt_index.symm
        contained (soFar.readings_eq_nil member contained agree)
  case neg =>
      rw [foldl_rebind_of_outside, settled_succ]
      · intro other otherBelongs otherEnds
        rcases eq_of_groupAt_of_last belongs otherBelongs otherEnds with rfl
        exact absurd otherBelongs inside
      · intro _ _ _
        rw [settled_slot, Bool.eq_false_iff]
        exact fun contained => inside
          ((groupAt_eq_some_iff (mem_groups_of_groupAt belongs)).mpr contained)

/-- Unless a group that asks for agreement ends at a slot, leaving it changes nothing. -/
theorem bindings_eq_succ (soFar : query.BoundSoFar positions bound limit index node)
    (unended : ∀ binding ∈ bound, ∀ group, query.groupAt binding.slot = some group →
      group.last = index → group.agreement.negated = true) :
    node.bindings = bound.map (query.settled positions bound (index + 1)) := by
  rw [soFar.bindings_eq]
  apply List.map_congr_left
  intro binding member
  exact (settled_succ (unended binding member)).symm

theorem bindings_of_closeGroup (defined : ∀ table, query.table = some table → table.Defined)
    (soFar : query.BoundSoFar positions bound limit index node)
    (belongs : query.groupAt index = some group) (ends : group.last = index)
    (satisfied : query.SatisfiesAgreement group (query.boundWords positions bound group))
    (closed : closeGroup group node = some next) :
    next.bindings = bound.map (query.settled positions bound (index + 1)) := by
  obtain ⟨bindings, rfl, ⟨rfl, kept⟩ | ⟨closing, closing_eq, -, asked, rfl⟩⟩ :=
    closeGroup_eq_some closed
  · apply soFar.bindings_eq_succ
    intro binding member other otherBelongs otherEnds
    rcases eq_of_groupAt_of_last belongs otherBelongs otherEnds with rfl
    have nonempty : query.boundWords positions bound other ≠ [] :=
      boundWords_ne_nil member (contains_of_groupAt otherBelongs)
    rcases soFar.session.exists_of_ne_nil belongs nonempty with
      ⟨table, features, -, -, closing_eq⟩
    exact kept _ closing_eq (isEmpty_run features nonempty)
  · have nonempty := soFar.session.ne_nil_of_eq_some belongs closing_eq
    exact soFar.bindAgreed_eq defined belongs ends asked ((satisfied nonempty).mpr asked) closing_eq

theorem bindings_of_leaveSlot (defined : ∀ table, query.table = some table → table.Defined)
    (soFar : query.BoundSoFar positions bound limit index node)
    (satisfied : ∀ group, query.groupAt index = some group → group.last = index →
      query.SatisfiesAgreement group (query.boundWords positions bound group))
    (left : leaveSlot (query.groupAt index) index node = some next) :
    next.bindings = bound.map (query.settled positions bound (index + 1)) := by
  cases belongs : query.groupAt index with
  | none =>
      rw [belongs] at left
      rcases Option.some.inj left with rfl
      apply soFar.bindings_eq_succ
      intro binding _ group groupBelongs ends
      have := groupAt_last (mem_groups_of_groupAt groupBelongs)
      rw [ends, belongs] at this
      cases this
  | some group =>
      rw [belongs, leaveSlot] at left
      by_cases ends : group.last = index
      · rw [if_pos ends] at left
        exact soFar.bindings_of_closeGroup defined belongs ends (satisfied group belongs ends) left
      · rw [if_neg ends] at left
        rcases Option.some.inj left with rfl
        apply soFar.bindings_eq_succ
        intro binding _ other otherBelongs otherEnds
        rcases eq_of_groupAt_of_last belongs otherBelongs otherEnds with rfl
        exact absurd otherEnds ends

theorem leave (defined : ∀ table, query.table = some table → table.Defined)
    (soFar : query.BoundSoFar positions bound (index + 1) index node)
    (left : leaveSlot (query.groupAt index) index node = some next) :
    query.BoundSoFar positions bound (index + 1) (index + 1) next := by
  have satisfied := (soFar.session.isSome_leaveSlot_iff defined).mp
    (Option.isSome_iff_exists.mpr ⟨next, left⟩)
  refine {
    earlier := soFar.earlier
    ordered := soFar.ordered
    passed := ?passed
    filled := soFar.filled
    bindings_eq := soFar.bindings_of_leaveSlot defined satisfied left
    session := ?session
    agrees := ?agrees }
  case passed =>
      rw [(leaveSlot_keeps left).1.1]
      exact soFar.passed
  case session =>
      -- A group that begins at the next slot has no words yet.
      refine soFar.session.leave (fun group belongs enters => boundWords_eq_nil ?_) left
      intro binding member
      have := soFar.earlier binding member
      have := lt_first_of_groupAt_succ belongs enters
      omega
  case agrees =>
      intro group member ended
      rcases Nat.lt_succ_iff_lt_or_eq.mp ended with ended | ends
      · exact soFar.agrees group member ended
      · exact satisfied group (ends ▸ groupAt_last member) ends

end BoundSoFar

/-- At the end of a way through the remaining slots the invariant holds behind all slots. -/
theorem Fills.exists_boundSoFar (defined : ∀ table, query.table = some table → table.Defined)
    {remaining : List (Slot × Option AgreementGroup)} {node last : SearchNode}
    {assignment : Assignment}
    (fills : query.Fills positions remaining index node assignment last)
    (rest : query.slotsFrom index = remaining) (inside : index ≤ query.slots.length)
    (soFar : query.BoundSoFar positions bound index index node) :
    ∃ all, query.BoundSoFar positions all query.slots.length query.slots.length last := by
  induction fills generalizing bound with
  | done =>
      rcases Nat.le_antisymm (slotsFrom_eq_nil rest) inside with rfl
      exact ⟨bound, soFar⟩
  | fill resolved lands fits extended left onward induction =>
      rcases slotsFrom_eq_cons rest with ⟨standing, rfl, restBehind⟩
      have filled := soFar.fill defined standing resolved lands fits extended
      have less := (List.getElem?_eq_some_iff.mp standing).1
      exact induction restBehind less (filled.leave defined left)
  | leaveOut resolved optional left onward induction =>
      rcases slotsFrom_eq_cons rest with ⟨standing, rfl, restBehind⟩
      have less := (List.getElem?_eq_some_iff.mp standing).1
      exact induction restBehind less (soFar.leaveOut.leave defined left)

/-- What the words of an occurrence were bound to, and that all their groups are as they should. -/
theorem exists_boundSoFar_of_occurrenceAt?
    (defined : ∀ table, query.table = some table → table.Defined) {sentence : Sentence}
    {start : Nat} {occurrence : Occurrence}
    (found : query.occurrenceAt? sentence start = .ok (some occurrence)) :
    ∃ bound last, occurrence.bindings = last.bindings ∧
      query.BoundSoFar sentence.positions bound query.slots.length query.slots.length last := by
  rcases meets_of_occurrenceAt? found with ⟨assignment, last, fills, -, rfl⟩
  rcases fills.exists_boundSoFar defined rfl (Nat.zero_le _)
    (.initial query sentence.positions start) with ⟨bound, soFar⟩
  exact ⟨bound, last, rfl, soFar⟩

/-! ## The readings of an occurrence -/

/-- Whether the slot is a neutral one among slots that ask for agreement. -/
def isWidened (query : Query) (index : Nat) : Bool :=
  query.isNeutral index && (query.groupAt index).any fun group => !group.agreement.negated

/--
The readings that an occurrence has for a position in a slot: some of those that fill the slot, but
in a neutral slot among slots that ask for agreement all that the position has.
-/
structure LeavesReadings (query : Query) (index : Nat) (slot : Slot) (position : Position)
    (readings : List Nat) : Prop where
  nonempty : readings ≠ []
  distinct : readings.Nodup
  inside : ∀ number ∈ readings, number < position.readings.length
  narrowed : query.isWidened index = false → readings.Sublist (slot.boundReadings position)
  widened : query.isWidened index = true → readings = List.range position.readings.length

theorem LeavesReadings.of_narrowed {position : Position} {readings : List Nat}
    (narrows : query.isWidened index = false) (nonempty : readings ≠ [])
    (narrowed : readings.Sublist (slot.boundReadings position)) :
    query.LeavesReadings index slot position readings where
  nonempty := nonempty
  distinct := (narrowed.trans (slot.boundReadings_sublist_range position)).nodup List.nodup_range
  inside := fun _ member => List.mem_range.mp
    ((narrowed.trans (slot.boundReadings_sublist_range position)).subset member)
  narrowed := fun _ => narrowed
  widened := fun widens => by rw [narrows] at widens; cases widens

theorem LeavesReadings.of_widened {position : Position} (widens : query.isWidened index = true)
    (analysed : position.readings ≠ []) :
    query.LeavesReadings index slot position (List.range position.readings.length) where
  nonempty := by simpa using analysed
  distinct := List.nodup_range
  inside := fun _ member => List.mem_range.mp member
  narrowed := fun narrows => by rw [narrows] at widens; cases widens
  widened := fun _ => rfl

theorem BoundSoFar.leavesReadings {limit : Nat} {last : SearchNode} {position : Position}
    {earlier : List Binding}
    (soFar : query.BoundSoFar positions bound limit query.slots.length last)
    (member : binding ∈ bound) (isBound : query.IsBound positions earlier binding slot position)
    (analysed : position.readings ≠ []) :
    query.LeavesReadings binding.slot slot position
      (query.settled positions bound query.slots.length binding).readings := by
  by_cases asked :
      ∃ group, query.groupAt binding.slot = some group ∧ group.agreement.negated = false
  case neg =>
      rw [settled_eq_self, isBound.readings_eq]
      · refine .of_narrowed ?_ (slot.boundReadings_ne_nil analysed) (.refl _)
        rw [isWidened]
        cases belongs : query.groupAt binding.slot with
        | none => exact Bool.and_false _
        | some group =>
            have negated := Bool.of_not_eq_false fun negated => asked ⟨group, belongs, negated⟩
            simp [negated]
      · intro group belongs _
        exact Bool.of_not_eq_false fun negated => asked ⟨group, belongs, negated⟩
  case pos =>
      rcases asked with ⟨group, belongs, negated⟩
      have groupMember := mem_groups_of_groupAt belongs
      have contained := contains_of_groupAt belongs
      have ended := last_lt_length groupMember
      have isWidened_eq : query.isWidened binding.slot = query.isNeutral binding.slot := by
        rw [isWidened, belongs]
        simp [negated]
      cases neutral : query.isNeutral binding.slot with
      | true =>
          rw [settled_of_ended belongs ended negated, isBound.wordAt_of_isNeutral neutral,
            agreedReadings_addNeutral]
          exact .of_widened (isWidened_eq.trans neutral) analysed
      | false =>
          have agree : query.Agree group (query.boundWords positions bound group) :=
            (soFar.agrees group groupMember ended (boundWords_ne_nil member contained)).mpr negated
          refine .of_narrowed (isWidened_eq.trans neutral) ?_
            (isBound.readings_eq ▸ settled_readings_sublist neutral)
          rw [settled_of_ended belongs ended negated]
          exact agreedReadings_ne_nil agree (wordAt_mem_boundWords member contained)
            (wordAt_neutral.trans neutral)

/--
Every word of an occurrence was bound by the readings that fill its slot.  What the occurrence has
of them is not empty, and nothing has been added but to neutral words.
-/
theorem readings_of_bindings (defined : ∀ table, query.table = some table → table.Defined)
    {sentence : Sentence} (analysed : ∀ position ∈ sentence.positions, position.readings ≠ [])
    {start : Nat} {occurrence : Occurrence}
    (found : query.occurrenceAt? sentence start = .ok (some occurrence)) :
    ∃ bound : List Binding,
      occurrence.bindings =
          bound.map (query.settled sentence.positions bound query.slots.length) ∧
        ∀ binding ∈ bound, ∃ slot position,
          query.IsBound sentence.positions
              (query.boundBefore sentence.positions bound binding.slot) binding slot position ∧
            query.LeavesReadings binding.slot slot position
              (query.settled sentence.positions bound query.slots.length binding).readings := by
  rcases exists_boundSoFar_of_occurrenceAt? defined found with ⟨bound, last, bindings_eq, soFar⟩
  refine ⟨bound, bindings_eq.trans soFar.bindings_eq, fun binding member => ?_⟩
  rcases soFar.filled binding member with ⟨slot, position, isBound⟩
  refine ⟨slot, position, isBound, soFar.leavesReadings member isBound ?_⟩
  exact analysed position (List.mem_of_getElem? isBound.standing)

/-- A noun whose number is open has only the reading left that agrees with its article. -/
theorem readings_of_bindings_of_number :
    ∃ (table : FeatureTable) (slots : List Slot),
      (FeatureTable.define [] "number" "sg" (.tagged "sg") >>= fun singular =>
        FeatureTable.define singular "number" "pl" (.tagged "pl")) = .ok table ∧
      [{ SlotSpec.word "la" with
          caseSensitive := true, agreement := some ⟨[("number", [])], false⟩ },
        { SlotSpec.headword "crisis" with
          caseSensitive := true, agreement := some ⟨[("number", [])], false⟩ }].mapM
        SlotSpec.compile = .ok slots ∧
      let query : Query := ⟨slots, some table, none, .plain "es" "Español", .respected⟩
      let positions : List Position :=
        [.opening, (Position.ofWord "la" 0).addReading (.tagged "la" "el" "sg"),
          ((Position.ofWord "crisis" 3).addReading (.tagged "crisis" "crisis" "pl")).addReading
            (.tagged "crisis" "crisis" "sg")]
      Sentence.ofPositions positions = .ok ⟨positions⟩ ∧
        query.occurrenceAt? ⟨positions⟩ 1 = .ok (some ⟨1, 3, [⟨0, 1, [0]⟩, ⟨1, 2, [1]⟩]⟩) ∧
          ∃ bound : List Binding,
            [⟨0, 1, [0]⟩, ⟨1, 2, [1]⟩] = bound.map (query.settled positions bound 2) ∧
              ∀ binding ∈ bound, ∃ slot position,
                query.IsBound positions (query.boundBefore positions bound binding.slot) binding
                    slot position ∧
                  query.LeavesReadings binding.slot slot position
                    (query.settled positions bound 2 binding).readings := by
  have defined : FeatureTable.Defined _ :=
    .define (.define .empty (rfl : FeatureTable.define [] "number" "sg" (.tagged "sg") = .ok _))
      (rfl : FeatureTable.define _ "number" "pl" (.tagged "pl") = .ok _)
  refine ⟨_, _, rfl, rfl, ?_⟩
  intro query positions
  have answered : query.occurrenceAt? ⟨positions⟩ 1 =
      .ok (some ⟨1, 3, [⟨0, 1, [0]⟩, ⟨1, 2, [1]⟩]⟩) := by
    have groups_eq : query.groups = List.replicate 2 (some ⟨0, 1, ⟨[("number", [])], false⟩⟩) := by
      simp [query, groups, groupsFrom, Slot.joinsAgreement]
    rw [occurrenceAt?_eq_offers, slotsFrom, groups_eq]
    decide +kernel
  have made : Sentence.ofPositions positions = .ok ⟨positions⟩ := by decide +kernel
  exact ⟨made, answered, readings_of_bindings
    (fun table table_eq => by cases table_eq; exact defined)
    (Sentence.readings_ne_nil_of_ofPositions made) answered⟩

/-- A neutral comma is left with a reading that does not fill its slot. -/
theorem not_narrowed_of_comma :
    ∃ (table : FeatureTable) (slots : List Slot),
      FeatureTable.define [] "number" "sg" (.tagged "sg") = .ok table ∧
      [{ SlotSpec.word "la" with
          caseSensitive := true, agreement := some ⟨[("number", [])], false⟩ },
        { (SlotSpec.word ",").withTag "PUNCT" with caseSensitive := true, neutral := true },
        { SlotSpec.word "casa" with
          caseSensitive := true, agreement := some ⟨[("number", [])], false⟩ }].mapM
        SlotSpec.compile = .ok slots ∧
      let query : Query := ⟨slots, some table, none, .plain "en" "English", .respected⟩
      let comma := ((Position.ofWord "," 2).addReading (.tagged "," "," "PUNCT")).addReading
        (.tagged "," "," "SYM")
      let sentence : Sentence :=
        ⟨[.opening, (Position.ofWord "la" 0).addReading (.tagged "la" "el" "sg"), comma,
          (Position.ofWord "casa" 4).addReading (.tagged "casa" "casa" "sg")]⟩
      query.occurrenceAt? sentence 1 =
          .ok (some ⟨1, 4, [⟨0, 1, [0]⟩, ⟨1, 2, [0, 1]⟩, ⟨2, 3, [0]⟩]⟩) ∧
        ∃ slot, query.slots[1]? = some slot ∧ slot.reference = none ∧
          slot.boundReadings comma = [0] := by
  refine ⟨_, _, rfl, rfl, ?_⟩
  intro query comma sentence
  refine ⟨?_, _, rfl, rfl, by decide +kernel⟩
  have groups_eq : query.groups = List.replicate 3 (some ⟨0, 2, ⟨[("number", [])], false⟩⟩) := by
    simp [query, groups, groupsFrom, Slot.joinsAgreement]
  rw [occurrenceAt?_eq_offers, slotsFrom, groups_eq]
  decide +kernel

end Query

end PhraseRules
