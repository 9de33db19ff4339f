import PhraseRules.Proofs.Search.Offers
import PhraseRules.Proofs.Search.Placement

/-!
# Ways to fill the slots

An assignment gives each slot a run or leaves it out.  `Query.Fills` says which assignments a search
tries and where each of them leads; `Query.mem_offers_iff` says that the occurrences that a search
meets are those at the ends of these ways.
-/

namespace PhraseRules

/-- For each slot the run that fills it; nothing if the slot is left out. -/
abbrev Assignment : Type :=
  List (Option Run)

namespace Query

/-- A search fills the remaining slots as assigned and gets from one node to another. -/
inductive Fills (query : Query) (positions : List Position) :
    (remaining : List (Slot × Option AgreementGroup)) → (index : Nat) → SearchNode →
    Assignment → SearchNode → Prop where
  | done {index : Nat} {node : SearchNode} : Fills query positions [] index node [] node
  | fill {declared slot : Slot} {group : Option AgreementGroup}
      {later : List (Slot × Option AgreementGroup)} {index : Nat} {node next last : SearchNode}
      {run : Run} {session : Option AgreementSession} {assignment : Assignment}
      (resolved : query.resolve index declared positions node.bindings = .ok (some slot))
      (lands : Lands positions (node.lastSlot.bind (query.slots[·]?)) node.allowance node.place
        run.start)
      (fits : query.Fits positions slot run)
      (extended : query.extendSession group index slot positions node.session
        ((slot.placementOf positions run).bindings index) = .ok (some session))
      (left : leaveSlot group index
        (nodeBehind index slot (slot.placementOf positions run) node session) = some next)
      (onward : Fills query positions later (index + 1) next assignment last) :
      Fills query positions ((declared, group) :: later) index node (some run :: assignment) last
  | leaveOut {declared slot : Slot} {group : Option AgreementGroup}
      {later : List (Slot × Option AgreementGroup)} {index : Nat} {node next last : SearchNode}
      {assignment : Assignment}
      (resolved : query.resolve index declared positions node.bindings = .ok (some slot))
      (optional : slot.least = 0) (left : leaveSlot group index node = some next)
      (onward : Fills query positions later (index + 1) next assignment last) :
      Fills query positions ((declared, group) :: later) index node (none :: assignment) last

/-- A slot is filled by a run that fits it, or left out if that is allowed. -/
def Admits (query : Query) (positions : List Position) (slot : Slot) : Option Run → Prop
  | none => slot.least = 0
  | some run => query.Fits positions slot run

/-- The occurrence lies at the end of a way to fill the remaining slots. -/
def Leads (query : Query) (positions : List Position) (start : Nat)
    (remaining : List (Slot × Option AgreementGroup)) (index : Nat) (node : SearchNode)
    (occurrence : Occurrence) : Prop :=
  ∃ assignment last, query.Fills positions remaining index node assignment last ∧
    start < last.place ∧ occurrence = ⟨start, last.place, last.bindings⟩

open Outcome

variable {query : Query} {positions : List Position} {start index : Nat} {declared slot : Slot}
  {group : Option AgreementGroup} {later : List (Slot × Option AgreementGroup)}
  {node : SearchNode} {met : List Occurrence} {occurrence : Occurrence}

/-- From a slot on an occurrence is reached with one of its placements, or without the slot. -/
theorem leads_cons_iff
    (resolved : query.resolve index declared positions node.bindings = .ok (some slot)) :
    query.Leads positions start ((declared, group) :: later) index node occurrence ↔
      (∃ placement ∈ query.placementsFrom slot positions node, ∃ session next,
          query.extendSession group index slot positions node.session
              (placement.bindings index) = .ok (some session) ∧
            leaveSlot group index (nodeBehind index slot placement node session) = some next ∧
              query.Leads positions start later (index + 1) next occurrence) ∨
        slot.least = 0 ∧ ∃ next, leaveSlot group index node = some next ∧
          query.Leads positions start later (index + 1) next occurrence := by
  constructor
  · rintro ⟨assignment, last, fills, less, equal⟩
    cases fills with
    | fill resolvedHere lands fits extended left onward =>
        rcases Option.some.inj (Except.ok.inj (resolved.symm.trans resolvedHere)) with rfl
        exact Or.inl ⟨_, mem_placements_iff.mpr ⟨_, lands, fits, rfl⟩, _, _, extended, left,
          _, last, onward, less, equal⟩
    | leaveOut resolvedHere optional left onward =>
        rcases Option.some.inj (Except.ok.inj (resolved.symm.trans resolvedHere)) with rfl
        exact Or.inr ⟨optional, _, left, _, last, onward, less, equal⟩
  · rintro (⟨placement, member, session, next, extended, left, assignment, last, onward, end_eq⟩ |
      ⟨optional, next, left, assignment, last, onward, end_eq⟩)
    · rcases mem_placements_iff.mp member with ⟨run, lands, fits, rfl⟩
      exact ⟨some run :: assignment, last, .fill resolved lands fits extended left onward, end_eq⟩
    · exact ⟨none :: assignment, last, .leaveOut resolved optional left onward, end_eq⟩

/-- On a way to fill the slots every slot without a reference is filled as it admits. -/
theorem Fills.admitted {remaining : List (Slot × Option AgreementGroup)} {last : SearchNode}
    {assignment : Assignment}
    (fills : query.Fills positions remaining index node assignment last) :
    List.Forall₂ (fun entry filling => entry.1.reference = none →
      query.Admits positions entry.1 filling) remaining assignment := by
  induction fills with
  | done => exact .nil
  | fill resolved lands fits extended left onward induction =>
      refine .cons (fun noReference => ?_) induction
      rw [resolve_of_reference_eq_none noReference] at resolved
      cases resolved
      exact fits
  | leaveOut resolved optional left onward induction =>
      refine .cons (fun noReference => ?_) induction
      rw [resolve_of_reference_eq_none noReference] at resolved
      cases resolved
      exact optional

/-! ## Occurrences at the ends -/

section Step

variable {onward : SearchNode → Except SearchError (List Occurrence)} {leads : SearchNode → Prop}
  (behind : ∀ next found, onward next = .ok found → (occurrence ∈ found ↔ leads next))

include behind

theorem mem_offersBehind_iff (offered : offersBehind group index onward node = .ok met) :
    occurrence ∈ met ↔ ∃ next, leaveSlot group index node = some next ∧ leads next := by
  rw [offersBehind] at offered
  cases left : leaveSlot group index node with
  | none =>
      rw [left] at offered
      rcases Except.ok.inj offered with rfl
      simp
  | some next =>
      rw [left] at offered
      simp [behind next met offered]

theorem mem_offersOfPlacement_iff {placement : Placement}
    (offered : query.offersOfPlacement group index slot positions node onward placement =
      .ok met) :
    occurrence ∈ met ↔
      ∃ session next,
        query.extendSession group index slot positions node.session (placement.bindings index) =
            .ok (some session) ∧
          leaveSlot group index (nodeBehind index slot placement node session) = some next ∧
            leads next := by
  rcases bind_eq_ok_iff.mp offered with ⟨extended, extended_eq, offered⟩
  cases extended with
  | none =>
      rcases Except.ok.inj offered with rfl
      simp [extended_eq]
  | some session =>
      rw [mem_offersBehind_iff behind offered, extended_eq]
      simp

theorem mem_offersOfOmission_iff
    (offered : offersOfOmission group index slot node onward = .ok met) :
    occurrence ∈ met ↔
      slot.least = 0 ∧ ∃ next, leaveSlot group index node = some next ∧ leads next := by
  rw [offersOfOmission] at offered
  split at offered
  case isTrue optional => simp only [mem_offersBehind_iff behind offered, optional, true_and]
  case isFalse required =>
      rcases Except.ok.inj offered with rfl
      simp [required]

end Step

/-- The occurrences that a search meets are those at the ends of the ways to fill the slots. -/
theorem mem_offers_iff {remaining : List (Slot × Option AgreementGroup)}
    (offered : query.offers positions start remaining index node = .ok met) :
    occurrence ∈ met ↔ query.Leads positions start remaining index node occurrence := by
  induction remaining generalizing index node met with
  | nil =>
      rcases Except.ok.inj offered with rfl
      constructor
      · intro member
        split at member
        case isTrue less => exact ⟨[], node, .done, less, List.mem_singleton.mp member⟩
        case isFalse => cases member
      · rintro ⟨assignment, last, fills, less, rfl⟩
        cases fills
        rw [if_pos less]
        exact List.mem_singleton_self _
  | cons first later induction =>
      rcases first with ⟨declared, group⟩
      have behind (next : SearchNode) (found : List Occurrence)
          (offered : query.offers positions start later (index + 1) next = .ok found) :
          occurrence ∈ found ↔ query.Leads positions start later (index + 1) next occurrence :=
        induction offered
      rcases bind_eq_ok_iff.mp offered with ⟨resolved?, resolved, continued⟩
      cases resolved? with
      | none =>
          rcases Except.ok.inj continued with rfl
          constructor
          · intro member
            cases member
          · rintro ⟨assignment, last, fills, -⟩
            cases fills with
            | fill other => cases resolved.symm.trans other
            | leaveOut other => cases resolved.symm.trans other
      | some slot =>
          rcases (offers_cons_eq_ok_iff resolved).mp offered with
            ⟨placed, omitted, placed_eq, omitted_eq, rfl⟩
          rw [List.mem_append, leads_cons_iff resolved, mem_offersOfOmission_iff behind omitted_eq,
            mem_flatten_iff_of_mapM_eq_ok placed_eq fun _ _ => mem_offersOfPlacement_iff behind]

end Query

end PhraseRules
