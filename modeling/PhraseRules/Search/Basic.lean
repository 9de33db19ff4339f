import Std.Data.HashSet
import PhraseRules.Search.Placement
import PhraseRules.Search.Reference
import PhraseRules.Sentence.Basic

/-!
# The search

All ways to fill the slots from a place on are tried, slot by slot: first the placements of the
slot in their order, then, if it is optional, leaving it out.  The occurrence that reaches farthest
is the answer; of those that reach equally far, the one that was met first.

States from which nothing was found can be remembered, so that they are not searched again.
-/

namespace PhraseRules

/-- What the search has done on the way to a slot. -/
structure SearchNode where
  place : Nat
  allowance : Allowance
  /-- The number of the slot that was filled last. -/
  lastSlot : Option Nat
  bindings : List Binding
  session : Option AgreementSession

/-- A state from which nothing can be found. -/
structure DeadEnd where
  slot : Nat
  place : Nat
  allowance : Allowance
  lastSlot : Option Nat
deriving DecidableEq, Hashable, Repr

/-- The state of the search before a slot. -/
def SearchNode.deadEnd (node : SearchNode) (slot : Nat) : DeadEnd :=
  ⟨slot, node.place, node.allowance, node.lastSlot⟩

/-- What the search has found out so far. -/
structure SearchState where
  best : Option Occurrence
  deadEnds : Std.HashSet DeadEnd

/-- The outcome of a part of the search: whether it found anything, and what is known after it. -/
abbrev SearchOutcome : Type :=
  Except SearchError (Bool × SearchState)

namespace SearchState

/-- The state before the search. -/
def initial : SearchState :=
  ⟨none, ∅⟩

/-- Takes in an occurrence; it has to reach farther than the best one so far. -/
def offer (state : SearchState) (occurrence : Occurrence) : SearchState :=
  if state.best.all (·.stop < occurrence.stop) then { state with best := some occurrence }
  else state

/-- Remembers that a state leads nowhere. -/
def bury (state : SearchState) (deadEnd : DeadEnd) : SearchState :=
  { state with deadEnds := state.deadEnds.insert deadEnd }

end SearchState

namespace Query

/-- The session of a group after a run is added, unless the words can no longer agree. -/
def extendSession (query : Query) (group : Option AgreementGroup) (index : Nat) (slot : Slot)
    (positions : List Position) (session : Option AgreementSession) (added : List Binding) :
    Except SearchError (Option (Option AgreementSession)) :=
  match group, query.table with
  | some group, some table => do
      let opened ← match session with
        | some session => .ok session
        | none =>
            match AgreementSession.start table group.agreement.filter with
            | .ok session => .ok session
            | .error fault => .error (.agreement index fault)
      let extended := added.foldl
        (fun session binding =>
          let position := positions[binding.position]?.getD default
          if slot.neutral then session.addNeutral binding.position position
          else session.addBound binding.position position binding.readings)
        opened
      if !group.agreement.negated && !extended.isUnified then .ok none
      else .ok (some (some extended))
  | _, _ => .ok (some session)

/-- Gives the words of a group the readings by which they agree. -/
def bindAgreed (group : AgreementGroup) (session : AgreementSession) (bindings : List Binding) :
    List Binding :=
  session.agreedWords.foldl
    (fun bindings word =>
      let readings := word.readings.map (·.index)
      if readings.isEmpty then bindings
      else bindings.map fun binding =>
        if binding.position = word.position ∧ group.contains binding.slot then
          { binding with readings := readings }
        else binding)
    bindings

/--
The node behind the last slot of a group, unless the words of the group do not agree as they should.
A group without words asks for nothing.
-/
def closeGroup (group : AgreementGroup) (node : SearchNode) : Option SearchNode :=
  match node.session with
  | none => some node
  | some session =>
      let left := { node with session := none }
      if session.isEmpty then some left
      else if group.agreement.negated then
        if session.isUnified then none else some left
      else if session.isUnified then
        some { left with bindings := bindAgreed group session node.bindings }
      else none

/-- The node behind a slot, unless a group that ends there does not agree as it should. -/
def leaveSlot (group : Option AgreementGroup) (index : Nat) (node : SearchNode) :
    Option SearchNode :=
  match group with
  | some group => if group.last = index then closeGroup group node else some node
  | none => some node

/-- Goes on behind a slot, if that is possible. -/
def advance (group : Option AgreementGroup) (index : Nat)
    (onward : SearchNode → SearchState → SearchOutcome) (node : SearchNode) (state : SearchState) :
    SearchOutcome :=
  match leaveSlot group index node with
  | some next => onward next state
  | none => .ok (false, state)

/-- The node behind a run in a slot. -/
def nodeBehind (index : Nat) (slot : Slot) (placement : Placement) (node : SearchNode)
    (session : Option AgreementSession) : SearchNode where
  place := placement.stop
  allowance := slot.skip
  lastSlot := some index
  bindings := node.bindings ++ placement.bindings index
  session := session

/-- Tries one placement of a slot after others have been tried. -/
def tryPlacement (query : Query) (group : Option AgreementGroup) (index : Nat) (slot : Slot)
    (positions : List Position) (node : SearchNode)
    (onward : SearchNode → SearchState → SearchOutcome) (before : Bool × SearchState)
    (placement : Placement) : SearchOutcome := do
  let added := placement.bindings index
  match ← query.extendSession group index slot positions node.session added with
  | none => .ok before
  | some session =>
      let (found, state) ←
        advance group index onward (nodeBehind index slot placement node session) before.2
      .ok (before.1 || found, state)

/-- Leaves out an optional slot after its placements have been tried. -/
def tryOmission (group : Option AgreementGroup) (index : Nat) (slot : Slot) (node : SearchNode)
    (onward : SearchNode → SearchState → SearchOutcome) (before : Bool × SearchState) :
    SearchOutcome :=
  if slot.least = 0 then do
    let (found, state) ← advance group index onward node before.2
    .ok (before.1 || found, state)
  else
    .ok before

/-- Remembers that a state leads nowhere, if states are remembered and this one does. -/
def remember (memoize : Bool) (deadEnd : DeadEnd) (outcome : Bool × SearchState) :
    Bool × SearchState :=
  if memoize && !outcome.1 then (false, outcome.2.bury deadEnd) else outcome

/-- Takes in what was bound when all slots are filled; at least one word has to be bound. -/
def finish (start : Nat) (node : SearchNode) (state : SearchState) : SearchOutcome :=
  if start < node.place then .ok (true, state.offer ⟨start, node.place, node.bindings⟩)
  else .ok (false, state)

/-- Tries all ways to fill the remaining slots, the first of which has the number `index`. -/
def explore (query : Query) (memoize : Bool) (positions : List Position) (start : Nat) :
    (remaining : List (Slot × Option AgreementGroup)) → (index : Nat) → SearchNode →
    SearchState → SearchOutcome
  | [], _, node, state => finish start node state
  | (declared, group) :: later, index, node, state =>
      if memoize && state.deadEnds.contains (node.deadEnd index) then .ok (false, state)
      else do
        match ← query.resolve index declared positions node.bindings with
        | none => .ok (false, state)
        | some slot =>
            let onward := query.explore memoize positions start later (index + 1)
            let before := node.lastSlot.bind (query.slots[·]?)
            let placements :=
              query.placements slot before node.allowance positions node.place
            let tried ← placements.foldlM
              (query.tryPlacement group index slot positions node onward) (false, state)
            let outcome ← tryOmission group index slot node onward tried
            .ok (remember memoize (node.deadEnd index) outcome)

/-- The best occurrence from `start` on, found with or without remembering dead ends. -/
def search (query : Query) (memoize : Bool) (sentence : Sentence) (start : Nat) :
    Except SearchError (Option Occurrence) :=
  if query.slots.isEmpty || start ≥ sentence.length then .ok none
  else do
    let node : SearchNode := ⟨start, some 0, none, [], none⟩
    let (_, state) ←
      query.explore memoize sentence.positions start (query.slots.zip query.groups) 0 node .initial
    .ok state.best

/-- The occurrence that starts at `start` and reaches farthest, if there is any. -/
def occurrenceAt? (query : Query) (sentence : Sentence) (start : Nat) :
    Except SearchError (Option Occurrence) :=
  query.search query.isMemorable sentence start

end Query

end PhraseRules
