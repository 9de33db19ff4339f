import PhraseRules.Proofs.Search.Groups
import PhraseRules.Proofs.Search.Ways
import PhraseRules.Proofs.Slot.Acceptance

/-!
# Slots that can replace each other

The exceptions and conjuncts of a slot are its guards: they keep words out of it, and stop what
follows or precedes it.  A search asks them about the positions of a sentence and about nothing
else, so guards that give the same answers there can be exchanged: `Query.occurrenceAt?_congr`.
-/

namespace PhraseRules

namespace Slot

variable {positions others : List Position} {slot other : Slot} {position : Position}

/-- The slot with other guards. -/
def withGuards (slot : Slot) (exceptions : List (ExceptionScope × Slot)) (conjuncts : List Slot) :
    Slot :=
  { slot with exceptions := exceptions, conjuncts := conjuncts }

/-- The slot without guards. -/
def unguarded (slot : Slot) : Slot :=
  slot.withGuards [] []

/-- Whether the guards of the slot let the position fill it. -/
def admits (slot : Slot) (position : Position) : Bool :=
  slot.conjuncts.all (·.accepts position) && !slot.excepts .current position

theorem accepts_eq (slot : Slot) (position : Position) :
    slot.accepts position =
      ((slot.criterion.holds position || slot.alternatives.any (·.accepts position)) &&
        slot.admits position) := by
  cases slot
  rw [accepts, someAccepts_eq_any, allAccept_eq_all, Bool.and_assoc]
  rfl

/-- The slots differ in nothing but their guards, and these say the same of the positions. -/
structure ActsLike (positions : List Position) (slot other : Slot) : Prop where
  other_eq : other = slot.withGuards other.exceptions other.conjuncts
  admits_eq : ∀ position ∈ positions, other.admits position = slot.admits position
  excepts_eq : ∀ scope, scope ≠ .current → ∀ position ∈ positions,
    other.excepts scope position = slot.excepts scope position

namespace ActsLike

theorem refl (positions : List Position) (slot : Slot) : ActsLike positions slot slot := by
  refine ⟨?_, fun _ _ => rfl, fun _ _ _ _ => rfl⟩
  cases slot
  rfl

/-- What does not depend on guards is the same of slots that act alike. -/
theorem part_eq {α : Type} (acts : ActsLike positions slot other) (part : Slot → α)
    (independent : ∀ exceptions conjuncts,
      part (slot.withGuards exceptions conjuncts) = part slot) : part other = part slot :=
  (congrArg part acts.other_eq).trans (independent other.exceptions other.conjuncts)

theorem of_subset (acts : ActsLike positions slot other) (subset : others ⊆ positions) :
    ActsLike others slot other :=
  ⟨acts.other_eq, fun position member => acts.admits_eq position (subset member),
    fun scope elsewhere position member => acts.excepts_eq scope elsewhere position (subset member)⟩

theorem accepts_eq (acts : ActsLike positions slot other) (member : position ∈ positions) :
    other.accepts position = slot.accepts position := by
  have criterion_eq := acts.part_eq criterion fun _ _ => rfl
  have alternatives_eq := acts.part_eq alternatives fun _ _ => rfl
  rw [Slot.accepts_eq, Slot.accepts_eq, acts.admits_eq position member, criterion_eq,
    alternatives_eq]

theorem map_unguarded_eq {slots changed : List Slot}
    (acts : List.Forall₂ (ActsLike positions) slots changed) :
    changed.map unguarded = slots.map unguarded := by
  induction acts with
  | nil => rfl
  | cons first _ induction =>
      rw [List.map_cons, List.map_cons, first.part_eq unguarded fun _ _ => rfl, induction]

end ActsLike

end Slot

open Slot

/-! ## Placements -/

/-- Behind slots with the same exceptions to what follows a run may start at the same places. -/
theorem landings_congr {before other : Option Slot} {positions : List Position}
    (same : ∀ position ∈ positions,
      other.any (·.excepts .next position) = before.any (·.excepts .next position))
    (allowance : Allowance) (place : Nat) :
    landings other allowance place positions = landings before allowance place positions := by
  induction positions generalizing allowance place with
  | nil => rw [landings, landings]
  | cons position later induction =>
      have sameLater := induction fun position member =>
        same position (List.mem_cons_of_mem _ member)
      rw [landings.eq_def, landings.eq_def]
      simp only [same position List.mem_cons_self, sameLater]

/-- Slots with the same number have the same exceptions to the words that follow. -/
theorem excepts_getElem?_eq {positions : List Position} {slots changed : List Slot}
    (acts : List.Forall₂ (ActsLike positions) slots changed) (number : Option Nat)
    {position : Position} (member : position ∈ positions) :
    (number.bind (changed[·]?)).any (·.excepts .next position) =
      (number.bind (slots[·]?)).any (·.excepts .next position) := by
  cases number with
  | none => rfl
  | some index =>
      rw [Option.bind_some, Option.bind_some]
      induction acts generalizing index with
      | nil => rfl
      | cons first _ induction =>
          cases index with
          | zero => exact first.excepts_eq .next nofun position member
          | succ index => exact induction index

namespace Query

variable {query : Query} {changed : List Slot} {positions : List Position} {slot other : Slot}

theorem runOf_congr (acts : ActsLike positions slot other) (limit : Option Nat) :
    (query.withSlots changed).runOf other limit positions = query.runOf slot limit positions := by
  induction positions generalizing limit with
  | nil => rfl
  | cons position later induction =>
      have accepts_eq : (query.withSlots changed).accepts other position =
          query.accepts slot position :=
        congrArg (!(query.immunity == .respected && position.immune) && ·)
          (acts.accepts_eq List.mem_cons_self)
      rw [runOf, runOf, accepts_eq, acts.part_eq boundReadings fun _ _ => rfl,
        induction (acts.of_subset (List.subset_cons_self position later))]

theorem placementsAt_congr (acts : ActsLike positions slot other) (start : Nat) :
    (query.withSlots changed).placementsAt other positions start =
      query.placementsAt slot positions start := by
  have least_eq := acts.part_eq Slot.least fun _ _ => rfl
  have most_eq := acts.part_eq Slot.most fun _ _ => rfl
  have run_eq : (query.withSlots changed).runOf other slot.most (positions.drop start) =
      query.runOf slot slot.most (positions.drop start) :=
    runOf_congr (acts.of_subset (List.drop_subset start positions)) slot.most
  have forbids_eq (previous : Nat) :
      positions[previous]?.any (other.excepts .previous) =
        positions[previous]?.any (slot.excepts .previous) := by
    cases found : positions[previous]? with
    | none => rfl
    | some position =>
        exact acts.excepts_eq .previous nofun position (List.mem_of_getElem? found)
  cases start with
  | zero => simp only [placementsAt, most_eq, least_eq, run_eq]
  | succ previous => simp only [placementsAt, forbids_eq, most_eq, least_eq, run_eq]

theorem placements_congr (acts : ActsLike positions slot other) {before behind : Option Slot}
    (same : ∀ position ∈ positions,
      behind.any (·.excepts .next position) = before.any (·.excepts .next position))
    (allowance : Allowance) (place : Nat) :
    (query.withSlots changed).placements other behind allowance positions place =
      query.placements slot before allowance positions place := by
  have landings_eq := landings_congr (fun position member =>
    same position (List.drop_subset place positions member)) allowance place
  rw [placements, placements, landings_eq, funext (placementsAt_congr acts)]

/-! ## The search -/

theorem resolve_withGuards (index : Nat) (declared : Slot) (bindings : List Binding)
    (exceptions : List (ExceptionScope × Slot)) (conjuncts : List Slot) :
    query.resolve index (declared.withGuards exceptions conjuncts) positions bindings =
      (query.resolve index declared positions bindings).map
        (Option.map (·.withGuards exceptions conjuncts)) :=
  resolve_map (·.withGuards exceptions conjuncts) rfl rfl fun _ => rfl

/-- Slots act alike also when their references are replaced. -/
theorem actsLike_of_resolve {index : Nat} {declared : Slot} {bindings : List Binding}
    (acts : ActsLike positions declared other)
    (resolved : query.resolve index declared positions bindings = .ok (some slot)) :
    ActsLike positions slot (slot.withGuards other.exceptions other.conjuncts) := by
  rcases eq_of_resolve_eq_ok resolved with rfl | ⟨text, rfl⟩ <;>
    exact ⟨rfl, acts.admits_eq, acts.excepts_eq⟩

theorem explore_congr (acts : List.Forall₂ (ActsLike positions) query.slots changed)
    {remaining others : List Slot} (rest : List.Forall₂ (ActsLike positions) remaining others)
    (groups : List (Option AgreementGroup)) (memoize : Bool) (start index : Nat) :
    (query.withSlots changed).explore memoize positions start (others.zip groups) index =
      query.explore memoize positions start (remaining.zip groups) index := by
  induction rest generalizing groups index with
  | nil => rfl
  | @cons declared other remaining others first _ induction =>
      cases groups with
      | nil => rfl
      | cons group groups =>
          funext node state
          -- a new text for a reference leaves the guards of either slot as they are
          have resolve_eq : (query.withSlots changed).resolve index other positions node.bindings =
              (query.resolve index declared positions node.bindings).map
                (Option.map (·.withGuards other.exceptions other.conjuncts)) := by
            rw [← resolve_withGuards, ← first.other_eq]
            rfl
          simp only [List.zip_cons_cons, explore, induction, resolve_eq]
          cases resolved : query.resolve index declared positions node.bindings with
          | error fault => rfl
          | ok resolved? =>
              cases resolved? with
              | none => rfl
              | some slot =>
                  simp only [Outcome.map_ok, Option.map_some, Outcome.ok_bind,
                    placements_congr (actsLike_of_resolve first resolved) fun _ =>
                      excepts_getElem?_eq acts node.lastSlot]
                  rfl

theorem groupsFrom_unguarded (index : Nat) (slots : List Slot) :
    groupsFrom index (slots.map unguarded) = groupsFrom index slots :=
  groupsFrom_map unguarded (fun _ => rfl) (fun _ => rfl) index slots

theorem groups_congr (acts : List.Forall₂ (ActsLike positions) query.slots changed) :
    (query.withSlots changed).groups = query.groups := by
  rw [groups, groups]
  cases query.table with
  | none => exact congrArg (List.replicate · none) acts.length_eq.symm
  | some table =>
      calc groupsFrom 0 changed
          = groupsFrom 0 (changed.map unguarded) :=
            (groupsFrom_unguarded 0 changed).symm
        _ = groupsFrom 0 (query.slots.map unguarded) := by rw [ActsLike.map_unguarded_eq acts]
        _ = groupsFrom 0 query.slots := groupsFrom_unguarded 0 query.slots

theorem isMemorable_congr (acts : List.Forall₂ (ActsLike positions) query.slots changed) :
    (query.withSlots changed).isMemorable = query.isMemorable := by
  have refers_eq : changed.all (·.reference.isNone) = query.slots.all (·.reference.isNone) := by
    have all_eq := congrArg (List.all · (·.reference.isNone)) (ActsLike.map_unguarded_eq acts)
    rw [List.all_map, List.all_map] at all_eq
    exact all_eq
  rw [isMemorable, isMemorable, groups_congr acts]
  exact congrArg (· && query.groups.all Option.isNone) refers_eq

/-- Slots that act alike in a sentence can be exchanged without changing the answers there. -/
theorem occurrenceAt?_congr {sentence : Sentence}
    (acts : List.Forall₂ (ActsLike sentence.positions) query.slots changed) (start : Nat) :
    (query.withSlots changed).occurrenceAt? sentence start =
      query.occurrenceAt? sentence start := by
  have isEmpty_eq : changed.isEmpty = query.slots.isEmpty := by
    generalize query.slots = slots at acts
    cases acts <;> rfl
  simp only [occurrenceAt?, search, isMemorable_congr acts, groups_congr acts,
    explore_congr acts acts]
  rw [isEmpty_eq]

/-- A slot of a pattern can be exchanged for one that acts alike. -/
theorem occurrenceAt?_replace {before behind : List Slot} {sentence : Sentence}
    (acts : ActsLike sentence.positions slot other) (start : Nat) :
    (query.withSlots (before ++ other :: behind)).occurrenceAt? sentence start =
      (query.withSlots (before ++ slot :: behind)).occurrenceAt? sentence start := by
  have others_act (slots : List Slot) :
      List.Forall₂ (ActsLike sentence.positions) slots slots :=
    List.forall₂_same.mpr fun slot _ => .refl sentence.positions slot
  have all_act : List.Forall₂ (ActsLike sentence.positions)
      (query.withSlots (before ++ slot :: behind)).slots (before ++ other :: behind) :=
    List.rel_append (others_act before) (.cons acts (others_act behind))
  exact occurrenceAt?_congr all_act start

end Query

end PhraseRules
