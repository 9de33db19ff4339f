import PhraseRules.Proofs.Search.GroupSession

/-!
# The session of a group during a search

A search carries a session with the words of the group that it is in.  The invariant is
`Query.SessionHolds`; with it, going on from a slot asks of the words of its group exactly what
`Query.AgreesAsAsked` says, and before the last slot of the group only what can still be reached.
-/

namespace PhraseRules

/-- The words that a placement binds, by their places. -/
theorem Slot.bindings_placementOf {query : Query} {positions : List Position} {slot : Slot}
    {run : Run} (repeats : query.Repeats positions slot run) (index : Nat) :
    (slot.placementOf positions run).bindings index =
      (List.range' run.start run.count).map fun place =>
        ⟨index, place, slot.boundReadings (positions[place]?.getD default)⟩ := by
  rw [placementOf, Placement.bindings]
  apply List.ext_getElem?
  intro offset
  simp only [List.getElem?_mapIdx, List.getElem?_map, List.getElem?_take, List.getElem?_drop]
  split
  case isTrue less =>
      have inside : run.start + offset < run.stop := Nat.add_lt_add_left less run.start
      rcases repeats.accepted (run.start + offset) (Nat.le_add_right _ _) inside with
        ⟨position, standing, -⟩
      rw [List.getElem?_range' less]
      simp [standing]
  case isFalse beyond =>
      rw [List.getElem?_eq_none (by simpa using beyond)]
      rfl

namespace Query

variable {query : Query} {positions : List Position} {before : List (Nat × Run)} {index : Nat}
  {slot : Slot} {run : Run} {group : AgreementGroup} {table : FeatureTable}
  {features : List ResolvedFeature} {session : Option AgreementSession}

/--
The session before a slot holds the words so far of the group of the slot; there is none as long as
there are no such words.
-/
def SessionHolds (query : Query) (positions : List Position) (before : List (Nat × Run))
    (index : Nat) : Option AgreementSession → Prop
  | none => ∀ group, query.groupAt index = some group → query.wordsOf positions group before = []
  | some session => ∃ group table features, query.groupAt index = some group ∧
      query.table = some table ∧ table.resolve group.agreement.filter = .ok features ∧
        query.wordsOf positions group before ≠ [] ∧
          session = (AgreementSession.opened features).run (query.wordsOf positions group before)

theorem sessionHolds_iff_sessionOf :
    query.SessionHolds positions before index session ↔
      query.SessionOf (fun group => query.wordsOf positions group before) index session := by
  cases session <;> exact Iff.rfl

/-! ## Adding a run -/

theorem wordsOf_concat_ne_nil (belongs : query.groupAt index = some group)
    (standing : query.slots[index]? = some slot) (repeats : query.Repeats positions slot run) :
    query.wordsOf positions group (before ++ [(index, run)]) ≠ [] := by
  have contained := (groupAt_eq_some_iff (mem_groups_of_groupAt belongs)).mp belongs
  have positive := repeats.least_le
  rw [wordsOf_append, wordsOf_singleton standing contained]
  apply List.append_ne_nil_of_right_ne_nil
  rw [ne_eq, List.map_eq_nil_iff, List.range'_eq_nil_iff]
  omega

/-- The words of a run are added one by one. -/
theorem map_stepOf_bindings (repeats : query.Repeats positions slot run) (index : Nat) :
    ((slot.placementOf positions run).bindings index).map (slot.stepOf positions) =
      (List.range' run.start run.count).map (slot.stepAt positions) := by
  rw [Slot.bindings_placementOf repeats, List.map_map]
  rfl

theorem bindings_placementOf_ne_nil (repeats : query.Repeats positions slot run) (index : Nat) :
    (slot.placementOf positions run).bindings index ≠ [] := by
  have positive := repeats.least_le
  rw [Slot.bindings_placementOf repeats, ne_eq, List.map_eq_nil_iff, List.range'_eq_nil_iff]
  omega

/--
A run can be added if the words of its group agree with it, or need not.  Then the session holds the
run as well.
-/
theorem SessionHolds.extend (defined : ∀ table, query.table = some table → table.Defined)
    (standing : query.slots[index]? = some slot)
    (holds : query.SessionHolds positions before index session)
    (repeats : query.Repeats positions slot run) {extended : Option (Option AgreementSession)}
    (extended_eq : query.extendSession (query.groupAt index) index slot positions session
      ((slot.placementOf positions run).bindings index) = .ok extended) :
    (extended.isSome ↔ ∀ group, query.groupAt index = some group →
        group.agreement.negated = false →
          query.Agree group (query.wordsOf positions group (before ++ [(index, run)]))) ∧
      ∀ extension, extended = some extension →
        query.SessionHolds positions (before ++ [(index, run)]) index extension := by
  have words_eq (group : AgreementGroup) (belongs : query.groupAt index = some group) :
      query.wordsOf positions group before ++
          ((slot.placementOf positions run).bindings index).map (slot.stepOf positions) =
        query.wordsOf positions group (before ++ [(index, run)]) := by
    have contained : group.contains index = true :=
      (groupAt_eq_some_iff (mem_groups_of_groupAt belongs)).mp belongs
    rw [map_stepOf_bindings repeats, wordsOf_append, wordsOf_singleton standing contained]
  rcases (sessionHolds_iff_sessionOf.mp holds).extend defined
    (bindings_placementOf_ne_nil repeats index) extended_eq with ⟨isSome_iff, holdsThen⟩
  constructor
  · rw [isSome_iff]
    refine forall₂_congr fun group belongs => ?_
    rw [words_eq group belongs]
  · intro extension isExtension
    exact sessionHolds_iff_sessionOf.mpr ((holdsThen extension isExtension).congr words_eq)

/-! ## Leaving a slot -/

/-- The places that are bound, by slot. -/
def boundPlaces (bindings : List Binding) : List (Nat × Nat) :=
  bindings.map fun binding => (binding.slot, binding.position)

theorem boundPlaces_nodeBehind (repeats : query.Repeats positions slot run) (node : SearchNode)
    (session : Option AgreementSession) :
    boundPlaces (nodeBehind index slot (slot.placementOf positions run) node session).bindings =
      boundPlaces node.bindings ++ (List.range' run.start run.count).map (index, ·) := by
  rw [nodeBehind, boundPlaces, List.map_append, Slot.bindings_placementOf repeats, List.map_map]
  rfl

theorem boundPlaces_bindAgreed (group : AgreementGroup) (session : AgreementSession)
    (bindings : List Binding) :
    boundPlaces (bindAgreed group session bindings) = boundPlaces bindings := by
  rw [bindAgreed]
  generalize session.agreedWords = words
  induction words generalizing bindings with
  | nil => rfl
  | cons word later induction =>
      rw [List.foldl_cons, induction]
      dsimp only
      split
      · rfl
      · rw [boundPlaces, List.map_map]
        apply List.map_congr_left
        intro binding _
        rw [Function.comp_apply]
        split <;> rfl

/-- A slot can be left unless a group ends there whose words do not agree as they should. -/
theorem SessionHolds.isSome_leaveSlot_iff
    (defined : ∀ table, query.table = some table → table.Defined) {node : SearchNode}
    (holds : query.SessionHolds positions before index node.session) :
    (leaveSlot (query.groupAt index) index node).isSome ↔
      ∀ group, query.groupAt index = some group → group.last = index →
        query.AgreesAsAsked positions group before :=
  (sessionHolds_iff_sessionOf.mp holds).isSome_leaveSlot_iff defined

/-- The node stands at a place, with an allowance, behind a slot that was filled last. -/
def IsAt (node : SearchNode) (place : Nat) (allowance : Allowance) (lastSlot : Option Nat) : Prop :=
  node.place = place ∧ node.allowance = allowance ∧ node.lastSlot = lastSlot

/-- Closing a group ends its session, and changes neither the place nor what is bound. -/
theorem closeGroup_keeps {node next : SearchNode} (closed : closeGroup group node = some next) :
    next.session = none ∧ IsAt next node.place node.allowance node.lastSlot ∧
      boundPlaces next.bindings = boundPlaces node.bindings := by
  rcases closeGroup_eq_some closed with ⟨bindings, rfl, ⟨rfl, -⟩ | ⟨session, -, -, -, rfl⟩⟩
  · exact ⟨rfl, ⟨rfl, rfl, rfl⟩, rfl⟩
  · exact ⟨rfl, ⟨rfl, rfl, rfl⟩, boundPlaces_bindAgreed group session node.bindings⟩

/-- Leaving a slot changes neither where the search stands nor what is bound. -/
theorem leaveSlot_keeps {group : Option AgreementGroup} {node next : SearchNode}
    (left : leaveSlot group index node = some next) :
    IsAt next node.place node.allowance node.lastSlot ∧
      boundPlaces next.bindings = boundPlaces node.bindings := by
  simp only [leaveSlot] at left
  split at left
  case h_1 group =>
      split at left
      case isTrue => exact (closeGroup_keeps left).2
      case isFalse =>
          rcases Option.some.inj left with rfl
          exact ⟨⟨rfl, rfl, rfl⟩, rfl⟩
  case h_2 =>
      rcases Option.some.inj left with rfl
      exact ⟨⟨rfl, rfl, rfl⟩, rfl⟩

/-- No word so far belongs to a group that begins behind the slot. -/
theorem wordsOf_eq_nil_of_groupAt_succ (belongs : query.groupAt (index + 1) = some group)
    (enters : query.groupAt index ≠ some group)
    (earlier : ∀ entry ∈ before, entry.1 ≤ index) :
    query.wordsOf positions group before = [] := by
  apply wordsOf_eq_nil
  intro entry entryMember
  have := earlier entry entryMember
  have := lt_first_of_groupAt_succ belongs enters
  rw [Bool.eq_false_iff, ne_eq, AgreementGroup.contains_iff]
  omega

/-- When a slot has been left, the session holds the words so far of the group of the next one. -/
theorem SessionHolds.leave {node next : SearchNode}
    (holds : query.SessionHolds positions before index node.session)
    (earlier : ∀ entry ∈ before, entry.1 ≤ index)
    (left : leaveSlot (query.groupAt index) index node = some next) :
    query.SessionHolds positions before (index + 1) next.session := by
  refine sessionHolds_iff_sessionOf.mpr ((sessionHolds_iff_sessionOf.mp holds).leave ?_ left)
  exact fun group belongs enters => wordsOf_eq_nil_of_groupAt_succ belongs enters earlier

end Query

end PhraseRules
