import Mathlib.Data.List.Forall2
import PhraseRules.Search.Scan

/-!
# Searches that do not see protection

A query for which protection does not count looks neither at the protection of a word nor at its
history: all that it does with a position is the same with `Position.bare`, where both are cleared.
So `Query.occurrenceAt?_of_sharesWords` finds the same in sentences that differ in nothing else.
-/

namespace PhraseRules

namespace Position

/-- The position without protection and history. -/
def bare (position : Position) : Position :=
  { position with immune := false, history := [] }

/-- The positions differ in nothing but protection and history. -/
def SharesWord (position other : Position) : Prop :=
  other = { position with immune := other.immune, history := other.history }

theorem SharesWord.bare_eq {position other : Position} (shares : position.SharesWord other) :
    other.bare = position.bare := by
  rw [shares]
  rfl

theorem getD_map_bare (positions : List Position) (index : Nat) :
    (positions.map bare)[index]?.getD default = (positions[index]?.getD default).bare := by
  rw [List.getElem?_map]
  cases positions[index]? <;> rfl

end Position

/-! ## Slots -/

namespace Slot

mutual

theorem accepts_bare : ∀ (slot : Slot) (position : Position),
    slot.accepts position.bare = slot.accepts position
  | ⟨criterion, _, _, _, _, exceptions, conjuncts, alternatives, _, _, _⟩, position => by
      rw [accepts, accepts, someAccepts_bare alternatives position,
        allAccept_bare conjuncts position, exceptionAccepts_bare .current exceptions position]
      rfl

theorem someAccepts_bare : ∀ (slots : List Slot) (position : Position),
    someAccepts slots position.bare = someAccepts slots position
  | [], _ => rfl
  | slot :: later, position => by
      rw [someAccepts, someAccepts, slot.accepts_bare position, someAccepts_bare later position]

theorem allAccept_bare : ∀ (slots : List Slot) (position : Position),
    allAccept slots position.bare = allAccept slots position
  | [], _ => rfl
  | slot :: later, position => by
      rw [allAccept, allAccept, slot.accepts_bare position, allAccept_bare later position]

theorem exceptionAccepts_bare (scope : ExceptionScope) :
    ∀ (exceptions : List (ExceptionScope × Slot)) (position : Position),
      exceptionAccepts scope exceptions position.bare = exceptionAccepts scope exceptions position
  | [], _ => rfl
  | (first, slot) :: later, position => by
      rw [exceptionAccepts, exceptionAccepts, slot.accepts_bare position,
        exceptionAccepts_bare scope later position]

end

theorem excepts_bare (slot : Slot) (scope : ExceptionScope) (position : Position) :
    slot.excepts scope position.bare = slot.excepts scope position :=
  exceptionAccepts_bare scope slot.exceptions position

theorem boundReadings_bare (slot : Slot) (position : Position) :
    slot.boundReadings position.bare = slot.boundReadings position :=
  rfl

end Slot

/-! ## Agreement -/

theorem choicesOf_bare (position : Position) (reading : Reading)
    (features : List ResolvedFeature) :
    choicesOf position.bare reading features = choicesOf position reading features := by
  induction features with
  | nil => rfl
  | cons feature later induction =>
      rw [choicesOf, choicesOf, induction]
      rfl

namespace AgreementSession

variable (session : AgreementSession) (index : Nat) (position : Position)

theorem addBound_bare (readings : List Nat) :
    session.addBound index position.bare readings = session.addBound index position readings := by
  have realize_eq : session.realize position.bare readings = session.realize position readings := by
    simp only [realize, choices, choicesOf_bare]
    rfl
  rw [addBound, addBound, realize_eq]

theorem addNeutral_bare :
    session.addNeutral index position.bare = session.addNeutral index position :=
  rfl

end AgreementSession

/-! ## The search -/

theorem landings_map_bare (before : Option Slot) (allowance : Allowance) (place : Nat)
    (positions : List Position) :
    landings before allowance place (positions.map Position.bare) =
      landings before allowance place positions := by
  induction positions generalizing allowance place with
  | nil => rfl
  | cons position later induction =>
      rw [List.map_cons, landings.eq_def, landings.eq_def]
      simp only [Slot.excepts_bare, induction]

namespace Query

variable {query : Query}

theorem accepts_bare (ignored : query.immunity = .ignored) (slot : Slot) (position : Position) :
    query.accepts slot position.bare = query.accepts slot position := by
  rw [accepts, accepts, slot.accepts_bare, ignored]
  rfl

theorem runOf_map_bare (ignored : query.immunity = .ignored) (slot : Slot) (limit : Option Nat)
    (positions : List Position) :
    query.runOf slot limit (positions.map Position.bare) = query.runOf slot limit positions := by
  induction positions generalizing limit with
  | nil => rfl
  | cons position later induction =>
      rw [List.map_cons, runOf, runOf, accepts_bare ignored, slot.boundReadings_bare, induction]

theorem placements_map_bare (ignored : query.immunity = .ignored) (slot : Slot)
    (before : Option Slot) (allowance : Allowance) (positions : List Position) (place : Nat) :
    query.placements slot before allowance (positions.map Position.bare) place =
      query.placements slot before allowance positions place := by
  have placementsAt_eq : query.placementsAt slot (positions.map Position.bare) =
      query.placementsAt slot positions := by
    funext start
    simp only [placementsAt, ← List.map_drop, runOf_map_bare ignored, List.getElem?_map,
      Option.any_map, slot.excepts_bare]
  rw [placements, placements, placementsAt_eq, ← List.map_drop, landings_map_bare]

theorem extendSession_map_bare (group : Option AgreementGroup) (index : Nat) (slot : Slot)
    (positions : List Position) (session : Option AgreementSession) (added : List Binding) :
    query.extendSession group index slot (positions.map Position.bare) session added =
      query.extendSession group index slot positions session added := by
  simp only [extendSession, Position.getD_map_bare, AgreementSession.addNeutral_bare,
    AgreementSession.addBound_bare]

theorem resolve_map_bare (index : Nat) (slot : Slot) (positions : List Position)
    (bindings : List Binding) :
    query.resolve index slot (positions.map Position.bare) bindings =
      query.resolve index slot positions bindings := by
  have texts_eq (reference : Rendering) (binding : Binding) :
      query.referenceTexts reference (positions.map Position.bare) binding =
        query.referenceTexts reference positions binding := by
    rw [referenceTexts, referenceTexts, Position.getD_map_bare]
    rfl
  simp only [resolve, texts_eq]

theorem explore_map_bare (ignored : query.immunity = .ignored) (memoize : Bool)
    (positions : List Position) (start : Nat) (remaining : List (Slot × Option AgreementGroup))
    (index : Nat) :
    query.explore memoize (positions.map Position.bare) start remaining index =
      query.explore memoize positions start remaining index := by
  induction remaining generalizing index with
  | nil => rfl
  | cons first later induction =>
      rcases first with ⟨declared, group⟩
      funext node state
      have tryPlacement_eq (slot : Slot) (onward : SearchNode → SearchState → SearchOutcome) :
          query.tryPlacement group index slot (positions.map Position.bare) node onward =
            query.tryPlacement group index slot positions node onward := by
        funext before placement
        simp only [tryPlacement, extendSession_map_bare]
      simp only [explore, resolve_map_bare, placements_map_bare ignored, tryPlacement_eq, induction]

theorem occurrenceAt?_map_bare (ignored : query.immunity = .ignored) (positions : List Position)
    (start : Nat) :
    query.occurrenceAt? ⟨positions.map Position.bare⟩ start =
      query.occurrenceAt? ⟨positions⟩ start := by
  simp only [occurrenceAt?, search, Sentence.length, List.length_map, explore_map_bare ignored]
  rfl

end Query

/-! ## Sentences that share their words -/

/-- The sentences differ in nothing but the protection and the history of their words. -/
def Sentence.SharesWords (sentence other : Sentence) : Prop :=
  List.Forall₂ Position.SharesWord sentence.positions other.positions

theorem Position.map_bare_eq {positions others : List Position}
    (shares : List.Forall₂ SharesWord positions others) :
    others.map bare = positions.map bare := by
  induction shares with
  | nil => rfl
  | cons shares _ induction => rw [List.map_cons, List.map_cons, shares.bare_eq, induction]

namespace Query

variable {query : Query} {sentence other : Sentence}

theorem occurrenceAt?_of_sharesWords (ignored : query.immunity = .ignored)
    (shares : sentence.SharesWords other) (start : Nat) :
    query.occurrenceAt? other start = query.occurrenceAt? sentence start := by
  calc query.occurrenceAt? other start
      = query.occurrenceAt? ⟨other.positions.map Position.bare⟩ start :=
        (occurrenceAt?_map_bare ignored other.positions start).symm
    _ = query.occurrenceAt? ⟨sentence.positions.map Position.bare⟩ start := by
        rw [Position.map_bare_eq shares]
    _ = query.occurrenceAt? sentence start :=
        occurrenceAt?_map_bare ignored sentence.positions start

/-- A scan sees of a sentence only its length and what is found from each place. -/
theorem scan_congr {α : Type} (visit : Occurrence → Except SearchError (Option α))
    (length_eq : other.length = sentence.length)
    (same : ∀ start, query.occurrenceAt? other start = query.occurrenceAt? sentence start)
    (fuel start : Nat) :
    query.scan other visit fuel start = query.scan sentence visit fuel start := by
  induction fuel generalizing start with
  | zero => rfl
  | succ fuel induction => simp only [scan, length_eq, same, induction]

theorem occurrences_of_sharesWords (ignored : query.immunity = .ignored)
    (shares : sentence.SharesWords other) :
    query.occurrences other = query.occurrences sentence := by
  have length_eq : other.length = sentence.length := (List.Forall₂.length_eq shares).symm
  rw [occurrences, occurrences, length_eq]
  exact scan_congr _ length_eq (occurrenceAt?_of_sharesWords ignored shares) _ _

end Query

end PhraseRules
