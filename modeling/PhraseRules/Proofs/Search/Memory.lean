import PhraseRules.Proofs.Search.Offers

/-!
# Remembering dead ends

A search that remembers dead ends skips states from which an earlier visit found nothing.  The main
statement is that this changes neither whether an occurrence is found nor which one: what is
remembered of a state decides how far the occurrences behind it reach.

The invariant of the search is `DeadEndsHold`: from a remembered state nothing is met, whatever was
bound on the way to it.
-/

namespace PhraseRules

namespace Query

open Outcome

variable {query : Query} {positions : List Position} {start : Nat}

/-- No slot refers to another one or belongs to a group. -/
def Independent (remaining : List (Slot × Option AgreementGroup)) : Prop :=
  ∀ entry ∈ remaining, entry.1.reference = none ∧ entry.2 = none

theorem Independent.tail {first : Slot × Option AgreementGroup}
    {later : List (Slot × Option AgreementGroup)} (independent : Independent (first :: later)) :
    Independent later :=
  fun entry member => independent entry (List.mem_cons_of_mem _ member)

theorem independent_slotsFrom (memorable : query.isMemorable = true) (index : Nat) :
    Independent (query.slotsFrom index) := by
  intro entry member
  rw [isMemorable, Bool.and_eq_true, List.all_eq_true, List.all_eq_true] at memorable
  have zipped : (entry.1, entry.2) ∈ query.slots.zip query.groups :=
    List.mem_of_mem_drop member
  rcases List.of_mem_zip zipped with ⟨slotMember, groupMember⟩
  exact ⟨Option.isNone_iff_eq_none.mp (memorable.1 entry.1 slotMember),
    Option.isNone_iff_eq_none.mp (memorable.2 entry.2 groupMember)⟩

/-! ## What decides about the occurrences ahead -/

/-- The nodes behind a slot without a group, in the order in which they are visited. -/
def branches (query : Query) (positions : List Position) (index : Nat) (slot : Slot)
    (node : SearchNode) : List SearchNode :=
  (query.placements slot (node.lastSlot.bind (query.slots[·]?)) node.allowance positions
      node.place).map (fun placement => nodeBehind index slot placement node node.session) ++
    if slot.least = 0 then [node] else []

theorem offers_cons_of_independent {declared : Slot} (noReference : declared.reference = none)
    (later : List (Slot × Option AgreementGroup)) (index : Nat) (node : SearchNode) :
    query.offers positions start ((declared, none) :: later) index node =
      ((query.branches positions index declared node).mapM
        (query.offers positions start later (index + 1))).map List.flatten := by
  have placement_eq (placement : Placement) :
      query.offersOfPlacement none index declared positions node
          (query.offers positions start later (index + 1)) placement =
        query.offers positions start later (index + 1)
          (nodeBehind index declared placement node node.session) :=
    rfl
  have placements_eq :
      query.offersOfPlacement none index declared positions node
          (query.offers positions start later (index + 1)) =
        query.offers positions start later (index + 1) ∘ fun placement =>
          nodeBehind index declared placement node node.session :=
    funext placement_eq
  rw [offers, resolve_of_reference_eq_none noReference, branches, List.mapM_append,
    List.mapM_map]
  simp only [ok_bind, placements_eq]
  cases (query.placements declared (node.lastSlot.bind (query.slots[·]?)) node.allowance
      positions node.place).mapM (query.offers positions start later (index + 1) ∘
        fun placement => nodeBehind index declared placement node node.session) with
  | error fault => rfl
  | ok placed =>
      simp only [ok_bind, offersOfOmission, offersBehind, leaveSlot]
      split
      · rw [List.mapM_cons, List.mapM_nil]
        cases query.offers positions start later (index + 1) node with
        | error fault => rfl
        | ok omitted =>
            show Except.ok _ = Except.ok (placed ++ [omitted]).flatten
            rw [List.flatten_append, List.flatten_singleton]
      · show Except.ok _ = Except.ok (placed ++ []).flatten
        rw [List.append_nil, List.append_nil]

/-- Without references and groups a search cannot fail. -/
theorem exists_offers_eq_ok {remaining : List (Slot × Option AgreementGroup)}
    (independent : Independent remaining) (index : Nat) (node : SearchNode) :
    ∃ met, query.offers positions start remaining index node = .ok met := by
  induction remaining generalizing index node with
  | nil => exact ⟨_, rfl⟩
  | cons first later induction =>
      rcases first with ⟨declared, group⟩
      obtain ⟨noReference, noGroup⟩ : declared.reference = none ∧ group = none :=
        independent _ List.mem_cons_self
      subst noGroup
      obtain ⟨met, passed⟩ : ∃ met, (query.branches positions index declared node).mapM
          (query.offers positions start later (index + 1)) = .ok met :=
        exists_mapM_eq_ok fun next _ => induction independent.tail (index + 1) next
      rw [offers_cons_of_independent noReference, passed]
      exact ⟨met.flatten, rfl⟩

/-- How far the occurrences reach that are met from a node. -/
def stops (query : Query) (positions : List Position) (start : Nat)
    (remaining : List (Slot × Option AgreementGroup)) (index : Nat) (node : SearchNode) :
    Except SearchError (List Nat) :=
  (query.offers positions start remaining index node).map (·.map Occurrence.stop)

theorem stops_cons_of_independent {declared : Slot} (noReference : declared.reference = none)
    (later : List (Slot × Option AgreementGroup)) (index : Nat) (node : SearchNode) :
    query.stops positions start ((declared, none) :: later) index node =
      ((query.branches positions index declared node).mapM
        (query.stops positions start later (index + 1))).map List.flatten := by
  have passes := map_mapM (query.offers positions start later (index + 1))
    (·.map Occurrence.stop) (query.branches positions index declared node)
  unfold stops
  rw [offers_cons_of_independent noReference, ← passes]
  cases (query.branches positions index declared node).mapM
      (query.offers positions start later (index + 1)) with
  | error fault => rfl
  | ok met => exact congrArg Except.ok List.map_flatten

/-- What is remembered of a state decides how far the occurrences behind it reach. -/
theorem stops_congr {remaining : List (Slot × Option AgreementGroup)}
    (independent : Independent remaining) (index : Nat) {node other : SearchNode}
    (same : node.deadEnd index = other.deadEnd index) :
    query.stops positions start remaining index node =
      query.stops positions start remaining index other := by
  have samePlace : node.place = other.place := congrArg DeadEnd.place same
  have sameAllowance : node.allowance = other.allowance := congrArg DeadEnd.allowance same
  have sameSlot : node.lastSlot = other.lastSlot := congrArg DeadEnd.lastSlot same
  induction remaining generalizing index node other with
  | nil =>
      simp only [stops, offers]
      rw [samePlace]
      split <;> rfl
  | cons first later induction =>
      rcases first with ⟨declared, group⟩
      obtain ⟨noReference, noGroup⟩ : declared.reference = none ∧ group = none :=
        independent _ List.mem_cons_self
      subst noGroup
      -- the nodes differ in what was bound on the way to them, at which nothing ahead looks
      have afterPlacement (placement : Placement) :
          query.stops positions start later (index + 1)
              (nodeBehind index declared placement node node.session) =
            query.stops positions start later (index + 1)
              (nodeBehind index declared placement other other.session) :=
        induction independent.tail (index + 1) rfl rfl rfl rfl
      have afterOmission :
          query.stops positions start later (index + 1) node =
            query.stops positions start later (index + 1) other :=
        induction independent.tail (index + 1)
          (by rw [SearchNode.deadEnd, SearchNode.deadEnd, samePlace, sameAllowance, sameSlot])
          samePlace sameAllowance sameSlot
      rw [stops_cons_of_independent noReference, stops_cons_of_independent noReference,
        branches, branches, List.mapM_append, List.mapM_append, List.mapM_map, List.mapM_map]
      simp only [Function.comp_def, afterPlacement, samePlace, sameAllowance, sameSlot]
      split
      · rw [List.mapM_cons, List.mapM_cons, afterOmission]
      · rfl

/-- If nothing is met from a state, nothing is met from it after other words were bound. -/
theorem offers_eq_nil_congr {remaining : List (Slot × Option AgreementGroup)}
    (independent : Independent remaining) (index : Nat) {node other : SearchNode}
    (same : node.deadEnd index = other.deadEnd index)
    (nothing : query.offers positions start remaining index node = .ok []) :
    query.offers positions start remaining index other = .ok [] := by
  have sameStops : query.stops positions start remaining index node =
      query.stops positions start remaining index other := stops_congr independent index same
  rw [stops, stops, nothing, map_ok, List.map_nil] at sameStops
  rcases map_eq_ok_iff.mp sameStops.symm with ⟨met, met_eq, stops_eq⟩
  rw [met_eq, List.map_eq_nil_iff.mp stops_eq]

/-! ## The search with memory -/

/-- From the remembered states nothing is met. -/
def DeadEndsHold (query : Query) (positions : List Position) (start : Nat)
    (state : SearchState) : Prop :=
  ∀ (index : Nat) (node : SearchNode), node.deadEnd index ∈ state.deadEnds →
    query.offers positions start (query.slotsFrom index) index node = .ok []

theorem deadEndsHold_initial : DeadEndsHold query positions start .initial := by
  intro index node remembered
  exact absurd remembered Std.HashSet.not_mem_empty

theorem DeadEndsHold.bury {state : SearchState} {index : Nat} {node : SearchNode}
    (memorable : query.isMemorable = true) (hold : DeadEndsHold query positions start state)
    (nothing : query.offers positions start (query.slotsFrom index) index node = .ok []) :
    DeadEndsHold query positions start (state.bury (node.deadEnd index)) := by
  intro otherIndex other remembered
  rcases Std.HashSet.mem_insert.mp remembered with equal | remembered
  · have same : node.deadEnd index = other.deadEnd otherIndex := by simpa using equal
    have sameIndex : index = otherIndex := congrArg DeadEnd.slot same
    subst sameIndex
    exact offers_eq_nil_congr (independent_slotsFrom memorable index) index same nothing
  · exact hold otherIndex other remembered

/--
A part of the search that began with `before` has met the given occurrences: it has found something
if there are any, it has kept the best of them, and what it remembers is true.
-/
def HasMet (query : Query) (positions : List Position) (start : Nat)
    (before : Bool × SearchState) (met : List Occurrence) (outcome : SearchOutcome) : Prop :=
  ∃ state, outcome = .ok (before.1 || !met.isEmpty, state) ∧
    state.best = met.foldl SearchState.keep before.2.best ∧
    DeadEndsHold query positions start state

variable {group : Option AgreementGroup} {index : Nat} {slot : Slot} {node : SearchNode}
  {explored : SearchNode → SearchState → SearchOutcome}
  {onward : SearchNode → Except SearchError (List Occurrence)}

theorem HasMet.nothing {found : Bool} {state : SearchState}
    (hold : DeadEndsHold query positions start state) :
    HasMet query positions start (found, state) [] (.ok (found, state)) :=
  ⟨state, by rw [List.isEmpty_nil, Bool.not_true, Bool.or_false], rfl, hold⟩

/-- What a search with memory does behind every node. -/
def Remembers (query : Query) (positions : List Position) (start : Nat)
    (explored : SearchNode → SearchState → SearchOutcome)
    (onward : SearchNode → Except SearchError (List Occurrence)) : Prop :=
  ∀ next state met, DeadEndsHold query positions start state → onward next = .ok met →
    HasMet query positions start (false, state) met (explored next state)

theorem Remembers.advance (remembers : Remembers query positions start explored onward)
    {state : SearchState} {met : List Occurrence} (hold : DeadEndsHold query positions start state)
    (offered : offersBehind group index onward node = .ok met) :
    HasMet query positions start (false, state) met
      (Query.advance group index explored node state) := by
  rw [offersBehind] at offered
  rw [Query.advance]
  cases left : leaveSlot group index node with
  | none =>
      rw [left] at offered
      rcases Except.ok.inj offered with rfl
      exact .nothing hold
  | some next =>
      rw [left] at offered
      exact remembers next state met hold offered

theorem Remembers.tryPlacement (remembers : Remembers query positions start explored onward)
    (found : Bool) {state : SearchState} {met : List Occurrence} {placement : Placement}
    (hold : DeadEndsHold query positions start state)
    (offered : query.offersOfPlacement group index slot positions node onward placement =
      .ok met) :
    HasMet query positions start (found, state) met
      (query.tryPlacement group index slot positions node explored (found, state) placement) := by
  rcases bind_eq_ok_iff.mp offered with ⟨extended, extends_eq, offered⟩
  simp only [Query.tryPlacement, extends_eq, ok_bind]
  cases extended with
  | none =>
      rcases Except.ok.inj offered with rfl
      exact .nothing hold
  | some session =>
      rcases remembers.advance hold offered with ⟨after, explored_eq, best_eq, holds⟩
      exact ⟨after, by simp only [explored_eq, ok_bind, Bool.false_or], best_eq, holds⟩

theorem Remembers.foldlM_tryPlacement
    (remembers : Remembers query positions start explored onward)
    (placements : List Placement) (found : Bool) {state : SearchState}
    {met : List (List Occurrence)} (hold : DeadEndsHold query positions start state)
    (offered : placements.mapM
      (query.offersOfPlacement group index slot positions node onward) = .ok met) :
    HasMet query positions start (found, state) met.flatten
      (placements.foldlM (query.tryPlacement group index slot positions node explored)
        (found, state)) := by
  induction placements generalizing found state met with
  | nil =>
      rcases Except.ok.inj offered with rfl
      exact .nothing hold
  | cons placement later induction =>
      rw [List.mapM_cons] at offered
      rcases bind_eq_ok_iff.mp offered with ⟨first, offeredFirst, offered⟩
      rcases bind_eq_ok_iff.mp offered with ⟨others, offeredLater, met_eq⟩
      rcases Except.ok.inj met_eq with rfl
      rcases remembers.tryPlacement found hold offeredFirst with
        ⟨middle, tried, middleBest, middleHolds⟩
      rcases induction (found || !first.isEmpty) middleHolds offeredLater with
        ⟨after, passed, best_eq, holds⟩
      refine ⟨after, ?_, ?_, holds⟩
      · rw [List.foldlM_cons, tried, ok_bind, passed, List.flatten_cons]
        cases first <;> simp
      · rw [best_eq, middleBest, List.flatten_cons, List.foldl_append]

theorem Remembers.tryOmission (remembers : Remembers query positions start explored onward)
    (found : Bool) {state : SearchState} {met : List Occurrence}
    (hold : DeadEndsHold query positions start state)
    (offered : offersOfOmission group index slot node onward = .ok met) :
    HasMet query positions start (found, state) met
      (Query.tryOmission group index slot node explored (found, state)) := by
  rw [offersOfOmission] at offered
  rw [Query.tryOmission]
  split at offered
  case isTrue optional =>
      rw [if_pos optional]
      rcases remembers.advance hold offered with ⟨after, explored_eq, best_eq, holds⟩
      exact ⟨after, by rw [explored_eq]; rfl, best_eq, holds⟩
  case isFalse required =>
      rw [if_neg required]
      rcases Except.ok.inj offered with rfl
      exact .nothing hold

/--
From any state whose dead ends hold, a search with memory finds what one without memory meets, and
its dead ends still hold.
-/
theorem explore_true_hasMet (memorable : query.isMemorable = true)
    (remaining : List (Slot × Option AgreementGroup)) (index : Nat)
    (rest : query.slotsFrom index = remaining) :
    Remembers query positions start (query.explore true positions start remaining index)
      (query.offers positions start remaining index) := by
  induction remaining generalizing index with
  | nil =>
      intro node state met hold offered
      rcases Except.ok.inj offered with rfl
      rw [explore, finish]
      split
      · refine ⟨_, rfl, by simp, fun other next remembered => hold other next ?_⟩
        simpa using remembered
      · exact .nothing hold
  | cons first later induction =>
      rcases first with ⟨declared, group⟩
      intro node state met hold offered
      have independent := independent_slotsFrom memorable index
      have noReference : declared.reference = none :=
        (independent (declared, group) (by rw [rest]; exact List.mem_cons_self)).1
      have remembers := induction (index + 1) (slotsFrom_succ rest)
      cases known : state.deadEnds.contains (node.deadEnd index) with
      | true =>
          -- the state is known to lead nowhere, so nothing can be met from it
          have nothing := hold index node (Std.HashSet.mem_iff_contains.mpr known)
          rw [rest, offered] at nothing
          rcases Except.ok.inj nothing with rfl
          rw [explore, known]
          exact .nothing hold
      | false =>
          have resolved : query.resolve index declared positions node.bindings = _ :=
            resolve_of_reference_eq_none noReference index node.bindings
          rcases (offers_cons_eq_ok_iff resolved).mp offered with
            ⟨placed, omitted, placed_eq, omitted_eq, met_eq⟩
          rcases remembers.foldlM_tryPlacement _ false hold placed_eq with
            ⟨middle, tried, middleBest, middleHolds⟩
          rcases remembers.tryOmission (!placed.flatten.isEmpty) middleHolds omitted_eq with
            ⟨after, leftOut, afterBest, afterHolds⟩
          have found_eq : (!placed.flatten.isEmpty || !omitted.isEmpty) = !met.isEmpty := by
            rw [← met_eq]
            cases placed.flatten <;> simp
          have bestMet : after.best = met.foldl SearchState.keep state.best := by
            rw [← met_eq, List.foldl_append, afterBest, middleBest]
          rw [Bool.false_or] at tried
          rw [found_eq] at leftOut
          rw [explore_cons_eq_ok (by rw [Bool.true_and, known]) resolved tried leftOut]
          cases met with
          | nil =>
              -- nothing was met, so the state is remembered rightly
              have nothing :
                  query.offers positions start (query.slotsFrom index) index node = .ok [] := by
                rw [rest, offered]
              exact ⟨after.bury (node.deadEnd index), rfl, bestMet,
                afterHolds.bury memorable nothing⟩
          | cons occurrence others => exact ⟨after, rfl, bestMet, afterHolds⟩

/-! ## The answer of the search -/

/-- A search with memory gives the answer of one without, where dead ends are remembered. -/
theorem search_true (memorable : query.isMemorable = true) (sentence : Sentence) (start : Nat) :
    query.search true sentence start = query.search false sentence start := by
  obtain ⟨met, offered⟩ : ∃ met, query.offers sentence.positions start (query.slotsFrom 0) 0
      (nodeAt start) = .ok met :=
    exists_offers_eq_ok (independent_slotsFrom memorable 0) 0 (nodeAt start)
  rcases explore_true_hasMet memorable (query.slotsFrom 0) 0 rfl (nodeAt start) .initial met
      deadEndsHold_initial offered with
    ⟨after, explored, best_eq, -⟩
  rw [search_false, offered]
  simp only [slotsFrom, List.drop_zero, nodeAt] at explored
  simp only [search, explored]
  split
  · rfl
  · exact congrArg Except.ok best_eq

/-- The answer of a query is the first of the farthest occurrences that a search meets. -/
theorem occurrenceAt?_eq_offers (query : Query) (sentence : Sentence) (start : Nat) :
    query.occurrenceAt? sentence start =
      if query.slots.isEmpty || start ≥ sentence.length then .ok none
      else
        (query.offers sentence.positions start (query.slotsFrom 0) 0 (nodeAt start)).map
          (·.foldl SearchState.keep none) := by
  rw [← search_false, occurrenceAt?]
  cases memorable : query.isMemorable with
  | false => rfl
  | true => exact search_true memorable sentence start

/--
A query gives the same answer, with the same words bound to the same readings, as a search that
remembers no dead ends.
-/
theorem occurrenceAt?_eq_search_without_memory (query : Query) (sentence : Sentence)
    (start : Nat) :
    query.occurrenceAt? sentence start = query.search false sentence start := by
  rw [occurrenceAt?_eq_offers, search_false]

end Query

end PhraseRules
