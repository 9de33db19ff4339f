import Mathlib.Data.List.Induction
import PhraseRules.Proofs.Outcome
import PhraseRules.Search.Basic

/-!
# The occurrences that a search meets

A search without memory goes through all ways to fill the slots and keeps the occurrence that
reaches farthest.  This module separates the two: `Query.offers` lists the occurrences in the order
in which they are met, and `Query.explore_false` says that the search finds something exactly if
there are any and takes them in one after the other.  Of those that reach farthest the first one is
kept.

Nothing is said here about what the occurrences are.
-/

namespace PhraseRules

namespace SearchState

/-- What a part of the search reports if it meets the given occurrences. -/
def report (state : SearchState) (met : List Occurrence) : Bool × SearchState :=
  (!met.isEmpty, met.foldl offer state)

@[simp]
theorem report_nil (state : SearchState) :
    state.report [] = (false, state) :=
  rfl

/-- Two parts of a search report what both of them meet. -/
theorem report_append (state : SearchState) (first second : List Occurrence) :
    state.report (first ++ second) =
      ((state.report first).1 || ((state.report first).2.report second).1,
        ((state.report first).2.report second).2) := by
  cases first with
  | nil => simp [report]
  | cons occurrence later => simp [report]

/-- Of the best occurrence so far and a new one, the one that is kept. -/
def keep (best : Option Occurrence) (occurrence : Occurrence) : Option Occurrence :=
  if best.all (·.stop < occurrence.stop) then some occurrence else best

@[simp]
theorem offer_best (state : SearchState) (occurrence : Occurrence) :
    (state.offer occurrence).best = keep state.best occurrence := by
  rw [offer, keep]
  split <;> rfl

@[simp]
theorem offer_deadEnds (state : SearchState) (occurrence : Occurrence) :
    (state.offer occurrence).deadEnds = state.deadEnds := by
  rw [offer]
  split <;> rfl

/-- The best occurrence depends on the occurrences met, but not on the dead ends. -/
theorem foldl_offer_best (met : List Occurrence) (state : SearchState) :
    (met.foldl offer state).best = met.foldl keep state.best := by
  induction met generalizing state with
  | nil => rfl
  | cons occurrence later induction =>
      rw [List.foldl_cons, List.foldl_cons, induction, offer_best]

@[simp]
theorem foldl_offer_deadEnds (met : List Occurrence) (state : SearchState) :
    (met.foldl offer state).deadEnds = state.deadEnds := by
  induction met generalizing state with
  | nil => rfl
  | cons occurrence later induction =>
      rw [List.foldl_cons, induction, offer_deadEnds]

theorem foldl_keep_eq_none_iff {met : List Occurrence} :
    met.foldl keep none = none ↔ met = [] := by
  induction met using List.reverseRecOn with
  | nil => simp
  | append_singleton earlier last _ =>
      rw [List.foldl_concat]
      generalize earlier.foldl keep none = best
      rw [keep]
      cases best with
      | none => simp
      | some best => split <;> simp

/-- The occurrence that is kept is the first of those that reach farthest. -/
theorem foldl_keep_eq_some {met : List Occurrence} {best : Occurrence}
    (kept : met.foldl keep none = some best) :
    ∃ earlier later, met = earlier ++ best :: later ∧
      (∀ occurrence ∈ earlier, occurrence.stop < best.stop) ∧
        ∀ occurrence ∈ later, occurrence.stop ≤ best.stop := by
  induction met using List.reverseRecOn generalizing best with
  | nil => cases kept
  | append_singleton previous last induction =>
      rw [List.foldl_concat] at kept
      cases before : previous.foldl keep none with
      | none =>
          rw [before] at kept
          rcases foldl_keep_eq_none_iff.mp before with rfl
          rcases Option.some.inj kept with rfl
          exact ⟨[], [], rfl, by simp, by simp⟩
      | some champion =>
          rw [before, keep, Option.all_some] at kept
          rcases induction before with ⟨earlier, later, rfl, shorter, noLonger⟩
          split at kept
          case isTrue farther =>
              rcases Option.some.inj kept with rfl
              have farther : champion.stop < last.stop := of_decide_eq_true farther
              refine ⟨earlier ++ champion :: later, [], rfl, fun occurrence member => ?_, by simp⟩
              rcases List.mem_append.mp member with member | member
              · exact Nat.lt_trans (shorter occurrence member) farther
              · rcases List.mem_cons.mp member with rfl | member
                · exact farther
                · exact Nat.lt_of_le_of_lt (noLonger occurrence member) farther
          case isFalse noFarther =>
              rcases Option.some.inj kept with rfl
              refine ⟨earlier, later ++ [last], by simp, shorter, fun occurrence member => ?_⟩
              rcases List.mem_append.mp member with member | member
              · exact noLonger occurrence member
              · rw [List.mem_singleton.mp member]
                exact Nat.le_of_not_lt (mt decide_eq_true noFarther)

end SearchState

namespace Query

/-! ## The list of occurrences -/

/-- The slots from a number on, with the groups that they belong to. -/
def slotsFrom (query : Query) (index : Nat) : List (Slot × Option AgreementGroup) :=
  (query.slots.zip query.groups).drop index

theorem slotsFrom_succ {query : Query} {index : Nat} {first : Slot × Option AgreementGroup}
    {later : List (Slot × Option AgreementGroup)}
    (rest : query.slotsFrom index = first :: later) : query.slotsFrom (index + 1) = later := by
  have dropped := congrArg List.tail rest
  rwa [slotsFrom, List.tail_drop] at dropped

/-- The occurrences met behind a slot, if it is possible to go on there. -/
def offersBehind (group : Option AgreementGroup) (index : Nat)
    (onward : SearchNode → Except SearchError (List Occurrence)) (node : SearchNode) :
    Except SearchError (List Occurrence) :=
  match leaveSlot group index node with
  | some next => onward next
  | none => .ok []

/-- The occurrences met with one placement of a slot. -/
def offersOfPlacement (query : Query) (group : Option AgreementGroup) (index : Nat) (slot : Slot)
    (positions : List Position) (node : SearchNode)
    (onward : SearchNode → Except SearchError (List Occurrence)) (placement : Placement) :
    Except SearchError (List Occurrence) := do
  match ← query.extendSession group index slot positions node.session
      (placement.bindings index) with
  | none => .ok []
  | some session => offersBehind group index onward (nodeBehind index slot placement node session)

/-- The occurrences met with a slot left out. -/
def offersOfOmission (group : Option AgreementGroup) (index : Nat) (slot : Slot)
    (node : SearchNode) (onward : SearchNode → Except SearchError (List Occurrence)) :
    Except SearchError (List Occurrence) :=
  if slot.least = 0 then offersBehind group index onward node else .ok []

/--
The occurrences that are met when the remaining slots are filled in all ways, in the order in which
a search without memory meets them.
-/
def offers (query : Query) (positions : List Position) (start : Nat) :
    (remaining : List (Slot × Option AgreementGroup)) → (index : Nat) → SearchNode →
    Except SearchError (List Occurrence)
  | [], _, node => .ok (if start < node.place then [⟨start, node.place, node.bindings⟩] else [])
  | (declared, group) :: later, index, node => do
      match ← query.resolve index declared positions node.bindings with
      | none => .ok []
      | some slot =>
          let onward := query.offers positions start later (index + 1)
          let before := node.lastSlot.bind (query.slots[·]?)
          let placed ←
            (query.placements slot before node.allowance positions node.place).mapM
              (query.offersOfPlacement group index slot positions node onward)
          let omitted ← offersOfOmission group index slot node onward
          .ok (placed.flatten ++ omitted)

open Outcome

variable {query : Query} {positions : List Position} {start : Nat}
  {group : Option AgreementGroup} {index : Nat} {slot : Slot} {node : SearchNode}
  {explored : SearchNode → SearchState → SearchOutcome}
  {onward : SearchNode → Except SearchError (List Occurrence)}

theorem resolve_of_reference_eq_none {slot : Slot} (noReference : slot.reference = none)
    (index : Nat) (bindings : List Binding) :
    query.resolve index slot positions bindings = .ok (some slot) := by
  rw [resolve, noReference]

/-- Replacing the reference of a slot changes its text and nothing else. -/
theorem eq_of_resolve_eq_ok {declared : Slot} {bindings : List Binding}
    (resolved : query.resolve index declared positions bindings = .ok (some slot)) :
    slot = declared ∨ ∃ text,
      slot = { declared with
        criterion := { declared.criterion with text := text }, reference := none } := by
  rw [resolve] at resolved
  split at resolved
  case h_1 =>
      cases resolved
      exact Or.inl rfl
  case h_2 reference _ =>
      split at resolved
      · cases resolved
      · split at resolved
        · cases resolved
        · obtain ⟨texts, -, resolved⟩ := bind_eq_ok_iff.mp resolved
          split at resolved
          · cases resolved
          · dsimp only at resolved
            split at resolved
            · next filled filled_eq =>
                cases resolved
                obtain ⟨text, -, filled_eq⟩ := bind_eq_ok_iff.mp filled_eq
                cases filled_eq
                exact Or.inr ⟨text, rfl⟩
            · cases resolved

/--
A change of a slot that leaves what the slot asks of a word and its reference alone can be made
before or after the reference is replaced.
-/
theorem resolve_map (change : Slot → Slot) {declared : Slot} {bindings : List Binding}
    (criterion_eq : (change declared).criterion = declared.criterion)
    (reference_eq : (change declared).reference = declared.reference)
    (commutes : ∀ criterion,
      { change declared with criterion := criterion, reference := none } =
        change { declared with criterion := criterion, reference := none }) :
    query.resolve index (change declared) positions bindings =
      (query.resolve index declared positions bindings).map (Option.map change) := by
  have withText_eq (pattern : String) (isRegex : Bool) :
      (change declared).withText pattern isRegex =
        (declared.withText pattern isRegex).map change := by
    rw [Slot.withText, Slot.withText, criterion_eq]
    cases Matcher.compile pattern isRegex declared.criterion.text.caseSensitive with
    | error fault => rfl
    | ok text => exact congrArg Except.ok (commutes _)
  simp only [resolve, reference_eq, criterion_eq, withText_eq]
  cases declared.reference with
  | none => rfl
  | some reference =>
      dsimp only
      split
      · rfl
      · split
        · rfl
        · cases query.referenceTexts reference positions _ with
          | error fault => rfl
          | ok texts =>
              rw [ok_bind, ok_bind]
              split
              · rfl
              · cases declared.withText _ true <;> rfl

/-- The placements of a slot from a node on. -/
def placementsFrom (query : Query) (slot : Slot) (positions : List Position)
    (node : SearchNode) : List Placement :=
  query.placements slot (node.lastSlot.bind (query.slots[·]?)) node.allowance positions node.place

/-- What is met from a slot on is met with its placements, and after them without the slot. -/
theorem offers_cons_eq_ok_iff {declared : Slot}
    (resolved : query.resolve index declared positions node.bindings = .ok (some slot))
    {later : List (Slot × Option AgreementGroup)} {met : List Occurrence} :
    query.offers positions start ((declared, group) :: later) index node = .ok met ↔
      ∃ placed omitted,
        (query.placementsFrom slot positions node).mapM
            (query.offersOfPlacement group index slot positions node
              (query.offers positions start later (index + 1))) = .ok placed ∧
          offersOfOmission group index slot node
            (query.offers positions start later (index + 1)) = .ok omitted ∧
          placed.flatten ++ omitted = met := by
  simp only [offers, resolved, ok_bind]
  constructor
  · intro offered
    rcases bind_eq_ok_iff.mp offered with ⟨placed, placed_eq, offered⟩
    rcases bind_eq_ok_iff.mp offered with ⟨omitted, omitted_eq, met_eq⟩
    exact ⟨placed, omitted, placed_eq, omitted_eq, Except.ok.inj met_eq⟩
  · rintro ⟨placed, omitted, placed_eq, omitted_eq, rfl⟩
    refine bind_eq_ok_iff.mpr ⟨placed, placed_eq, ?_⟩
    exact bind_eq_ok_iff.mpr ⟨omitted, omitted_eq, rfl⟩

/-- From an unknown state a search tries the placements of the slot, and then its omission. -/
theorem explore_cons_eq_ok {memoize : Bool} {declared : Slot}
    {later : List (Slot × Option AgreementGroup)} {state : SearchState}
    {tried outcome : Bool × SearchState}
    (unknown : (memoize && state.deadEnds.contains (node.deadEnd index)) = false)
    (resolved : query.resolve index declared positions node.bindings = .ok (some slot))
    (placed : (query.placementsFrom slot positions node).foldlM
      (query.tryPlacement group index slot positions node
        (query.explore memoize positions start later (index + 1))) (false, state) = .ok tried)
    (omitted : tryOmission group index slot node
      (query.explore memoize positions start later (index + 1)) tried = .ok outcome) :
    query.explore memoize positions start ((declared, group) :: later) index node state =
      .ok (remember memoize (node.deadEnd index) outcome) := by
  rw [placementsFrom] at placed
  rw [explore]
  simp only [unknown, Bool.false_eq_true, if_false, resolved, ok_bind, placed, omitted]

/-! ## The search goes through the list -/

theorem advance_eq_offersBehind
    (agree : ∀ next state, explored next state = (onward next).map state.report)
    (state : SearchState) :
    advance group index explored node state =
      (offersBehind group index onward node).map state.report := by
  rw [advance, offersBehind]
  cases leaveSlot group index node with
  | none => rfl
  | some next => exact agree next state

theorem tryPlacement_eq_offersOfPlacement
    (agree : ∀ next state, explored next state = (onward next).map state.report)
    (found : Bool) (state : SearchState) (placement : Placement) :
    query.tryPlacement group index slot positions node explored (found, state) placement =
      (query.offersOfPlacement group index slot positions node onward placement).map
        fun met => (found || (state.report met).1, (state.report met).2) := by
  simp only [tryPlacement, offersOfPlacement]
  cases query.extendSession group index slot positions node.session (placement.bindings index) with
  | error fault => simp
  | ok extended =>
      cases extended with
      | none => simp
      | some session =>
          simp only [ok_bind, advance_eq_offersBehind agree]
          cases offersBehind group index onward (nodeBehind index slot placement node session) with
          | error fault => rfl
          | ok met => rfl

theorem foldlM_tryPlacement_eq
    (agree : ∀ next state, explored next state = (onward next).map state.report)
    (placements : List Placement) (found : Bool) (state : SearchState) :
    placements.foldlM (query.tryPlacement group index slot positions node explored)
        (found, state) =
      (placements.mapM (query.offersOfPlacement group index slot positions node onward)).map
        fun met => (found || (state.report met.flatten).1, (state.report met.flatten).2) := by
  induction placements generalizing found state with
  | nil =>
      show Except.ok (found, state) = Except.ok (found || false, state)
      rw [Bool.or_false]
  | cons placement later induction =>
      rw [List.foldlM_cons, List.mapM_cons, tryPlacement_eq_offersOfPlacement agree]
      cases query.offersOfPlacement group index slot positions node onward placement with
      | error fault => rfl
      | ok met =>
          simp only [map_ok, ok_bind, induction]
          cases later.mapM (query.offersOfPlacement group index slot positions node onward) with
          | error fault => rfl
          | ok others =>
              show _ = Except.ok (found || (state.report (met ++ others.flatten)).1,
                (state.report (met ++ others.flatten)).2)
              rw [SearchState.report_append, ← Bool.or_assoc]
              rfl

theorem tryOmission_eq_offersOfOmission
    (agree : ∀ next state, explored next state = (onward next).map state.report)
    (found : Bool) (state : SearchState) :
    tryOmission group index slot node explored (found, state) =
      (offersOfOmission group index slot node onward).map
        fun met => (found || (state.report met).1, (state.report met).2) := by
  rw [tryOmission, offersOfOmission]
  split
  · rw [advance_eq_offersBehind agree]
    cases offersBehind group index onward node with
    | error fault => rfl
    | ok met => rfl
  · simp

/--
A search without memory finds something exactly if it meets an occurrence, and takes in what it
meets in order.
-/
theorem explore_false (query : Query) (positions : List Position) (start : Nat)
    (remaining : List (Slot × Option AgreementGroup)) (index : Nat) (node : SearchNode)
    (state : SearchState) :
    query.explore false positions start remaining index node state =
      (query.offers positions start remaining index node).map state.report := by
  induction remaining generalizing index node state with
  | nil =>
      rw [explore, offers, finish]
      split <;> rfl
  | cons first later induction =>
      rcases first with ⟨declared, group⟩
      have agree := induction (index + 1)
      rw [explore, offers]
      simp only [Bool.false_and, Bool.false_eq_true, if_false]
      cases query.resolve index declared positions node.bindings with
      | error fault => rfl
      | ok resolved =>
          cases resolved with
          | none => rfl
          | some slot =>
              simp only [ok_bind, foldlM_tryPlacement_eq agree]
              cases (query.placements slot (node.lastSlot.bind (query.slots[·]?)) node.allowance
                  positions node.place).mapM (query.offersOfPlacement group index slot positions
                    node (query.offers positions start later (index + 1))) with
              | error fault => rfl
              | ok placed =>
                  simp only [map_ok, ok_bind, tryOmission_eq_offersOfOmission agree]
                  cases offersOfOmission group index slot node
                    (query.offers positions start later (index + 1)) with
                  | error fault => rfl
                  | ok omitted =>
                      simp only [map_ok, ok_bind, SearchState.report_append]
                      simp [remember]

/-- The state of the search before the first slot. -/
def nodeAt (start : Nat) : SearchNode :=
  ⟨start, some 0, none, [], none⟩

/-- The answer of a search without memory is the best of the occurrences that it meets. -/
theorem search_false (query : Query) (sentence : Sentence) (start : Nat) :
    query.search false sentence start =
      if query.slots.isEmpty || start ≥ sentence.length then .ok none
      else
        (query.offers sentence.positions start (query.slotsFrom 0) 0 (nodeAt start)).map
          (·.foldl SearchState.keep none) := by
  have explored := query.explore_false sentence.positions start (query.slotsFrom 0) 0
    (nodeAt start) .initial
  simp only [slotsFrom, List.drop_zero, nodeAt] at explored ⊢
  simp only [search, explored]
  split
  · rfl
  · cases query.offers sentence.positions start (query.slots.zip query.groups) 0
      ⟨start, some 0, none, [], none⟩ with
    | error fault => rfl
    | ok met => exact congrArg Except.ok (SearchState.foldl_offer_best met .initial)

end Query

end PhraseRules
