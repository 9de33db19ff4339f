import PhraseRules.Proofs.Search.Bindings
import PhraseRules.Proofs.Search.Failure
import PhraseRules.Proofs.Search.Order

/-!
# Which assignment is the answer

Several valid assignments may reach equally far.  A search meets them in the order of
`Assignment.Precedes` and keeps the first, so for slots without references the answer of a query is
determined by the valid assignments alone, with everything that is bound in it.
-/

namespace PhraseRules

/--
The assignment is valid, none that is valid reaches behind the place where it ends, and it comes
before all others that reach this place.
-/
structure Assignment.IsFirstOfFarthest (assignment : Assignment) (query : Query)
    (positions : List Position) (start stop : Nat) : Prop where
  valid : assignment.IsValid query positions start
  stop_eq : assignment.stop? = some stop
  farthest : ∀ other : Assignment, other.IsValid query positions start →
    ∃ otherStop, other.stop? = some otherStop ∧ otherStop ≤ stop
  first : ∀ other : Assignment, other.IsValid query positions start →
    other.stop? = some stop → other = assignment ∨ assignment.Precedes start other

/-- An assignment that is valid from a place on fills a slot there. -/
theorem Assignment.IsValid.start_lt_length {assignment : Assignment} {query : Query}
    {positions : List Position} {start : Nat} (valid : assignment.IsValid query positions start) :
    start < positions.length := by
  have inside {slots : List Slot} {fillings : Assignment}
      (admitted : List.Forall₂ (query.Admits positions) slots fillings) (index : Nat) :
      ∀ entry ∈ fillings.filledFrom index, entry.2.start < positions.length := by
    induction admitted generalizing index with
    | nil => exact fun _ impossible => by cases impossible
    | @cons slot filling _ _ admits _ induction =>
        cases filling with
        | none => exact induction (index + 1)
        | some run =>
            intro entry member
            rcases List.mem_cons.mp member with rfl | member
            · exact Query.Repeats.start_lt_length (Query.Fits.toRepeats admits)
            · exact induction (index + 1) entry member
  obtain ⟨first, first_eq, rfl⟩ := Option.map_eq_some_iff.mp valid.begins
  exact inside valid.admitted 0 first (List.mem_of_head? first_eq)

/-- There is at most one such assignment. -/
theorem Assignment.IsFirstOfFarthest.unique {query : Query} {positions : List Position}
    {start stop otherStop : Nat} {assignment other : Assignment}
    (isFirst : assignment.IsFirstOfFarthest query positions start stop)
    (otherIsFirst : other.IsFirstOfFarthest query positions start otherStop) :
    other = assignment := by
  rcases isFirst.farthest other otherIsFirst.valid with ⟨reached, reached_eq, le_stop⟩
  rcases otherIsFirst.farthest assignment isFirst.valid with ⟨reached', reached'_eq, le_otherStop⟩
  rcases Option.some.inj (otherIsFirst.stop_eq.symm.trans reached_eq) with rfl
  rcases Option.some.inj (isFirst.stop_eq.symm.trans reached'_eq) with rfl
  rcases Nat.le_antisymm le_stop le_otherStop with rfl
  rcases isFirst.first other otherIsFirst.valid reached_eq with equal | precedes
  · exact equal
  · rcases otherIsFirst.first assignment isFirst.valid isFirst.stop_eq with equal | converse
    · exact equal.symm
    · exact absurd converse precedes.asymm

namespace Query

variable {query : Query} {positions : List Position} {start : Nat} {assignment : Assignment}
  {bound : List Binding} {last : SearchNode}

/-! ## What an assignment binds -/

/-- The word at a place bound to a slot by those of its readings that fill the slot. -/
def bindingAt (query : Query) (positions : List Position) (index place : Nat) : Binding :=
  ⟨index, place, query.slots[index]?.elim [] fun slot =>
    slot.boundReadings (positions[place]?.getD default)⟩

/-- The words of the runs bound to the slots that they fill. -/
def boundBy (query : Query) (positions : List Position) (assignment : Assignment) :
    List Binding :=
  (Assignment.placesOf assignment.filled).map fun entry =>
    query.bindingAt positions entry.1 entry.2

/-- What is bound at the end: the words of groups that ask for agreement have agreed. -/
noncomputable def bindingsBy (query : Query) (positions : List Position)
    (assignment : Assignment) : List Binding :=
  let bound := query.boundBy positions assignment
  bound.map (query.settled positions bound query.slots.length)

theorem boundPlaces_map_settled (bound others : List Binding) (index : Nat) :
    boundPlaces (others.map (query.settled positions bound index)) = boundPlaces others := by
  simp [boundPlaces, Function.comp_def]

/-- Without references the readings of a bound word are known from its place and its slot. -/
theorem BoundSoFar.eq_map_bindingAt {limit index : Nat}
    (noReferences : ∀ slot ∈ query.slots, slot.reference = none)
    (soFar : query.BoundSoFar positions bound limit index last) :
    bound = (boundPlaces bound).map fun entry => query.bindingAt positions entry.1 entry.2 := by
  rw [boundPlaces, List.map_map]
  refine ((List.map_congr_left fun binding member => ?_).trans (List.map_id bound)).symm
  rcases soFar.filled binding member with
    ⟨slot, position, ⟨declared, standing, resolved⟩, found, -, readings_eq⟩
  rw [resolve_of_reference_eq_none (noReferences declared (List.mem_of_getElem? standing))]
    at resolved
  cases resolved
  rw [Function.comp_apply, bindingAt, standing, found]
  exact congrArg (Binding.mk binding.slot binding.position) readings_eq.symm

section Spec

variable (noReferences : ∀ slot ∈ query.slots, slot.reference = none)
  (defined : ∀ table, query.table = some table → table.Defined)

include noReferences defined

/-- At the end of a way through the slots its assignment says what is bound. -/
theorem Fills.bindings_eq
    (fills : query.Fills positions (query.slotsFrom 0) 0 (nodeAt start) assignment last)
    (less : start < last.place) : last.bindings = query.bindingsBy positions assignment := by
  rcases fills.exists_boundSoFar defined rfl (Nat.zero_le _) (.initial query positions start) with
    ⟨bound, soFar⟩
  have places_eq : Assignment.placesOf assignment.filled = boundPlaces bound := by
    rw [(fills.isValid noReferences defined less).2.2, soFar.bindings_eq, boundPlaces_map_settled]
  have bound_eq : query.boundBy positions assignment = bound := by
    rw [boundBy, places_eq]
    exact (soFar.eq_map_bindingAt noReferences).symm
  rw [bindingsBy, bound_eq, soFar.bindings_eq]

/-- A search meets nothing exactly if there are no valid assignments. -/
theorem offers_eq_nil_iff {met : List Occurrence}
    (offered : query.offers positions start (query.slotsFrom 0) 0 (nodeAt start) = .ok met) :
    met = [] ↔ ¬∃ assignment : Assignment, assignment.IsValid query positions start := by
  constructor
  · rintro rfl ⟨assignment, valid⟩
    rcases exists_fills_of_isValid noReferences defined valid offered with ⟨last, fills, less⟩
    cases (mem_offers_iff offered).mpr ⟨assignment, last, fills, less, rfl⟩
  · intro noneValid
    apply List.eq_nil_iff_forall_not_mem.mpr
    intro occurrence member
    rcases (mem_offers_iff offered).mp member with ⟨assignment, last, fills, less, -⟩
    exact noneValid ⟨assignment, (fills.isValid noReferences defined less).1⟩

/-- A search keeps the occurrence of the first assignment of those that reach farthest. -/
theorem exists_isFirstOfFarthest_of_offers {met : List Occurrence} {occurrence : Occurrence}
    (offered : query.offers positions start (query.slotsFrom 0) 0 (nodeAt start) = .ok met)
    (kept : met.foldl SearchState.keep none = some occurrence) :
    ∃ assignment : Assignment,
      assignment.IsFirstOfFarthest query positions start occurrence.stop ∧
        occurrence = ⟨start, occurrence.stop, query.bindingsBy positions assignment⟩ := by
  obtain ⟨ways, met_eq, mem_iff, ordered⟩ := listsWays_offers offered
  rcases SearchState.foldl_keep_eq_some kept with ⟨earlier, later, rfl, shorter, noLonger⟩
  obtain ⟨earlierWays, behind, rfl, rfl, behind_eq⟩ := List.map_eq_append_iff.mp met_eq.symm
  obtain ⟨way, laterWays, rfl, rfl, rfl⟩ := List.map_eq_cons_iff.mp behind_eq
  obtain ⟨-, orderedBehind, -⟩ := List.pairwise_append.mp ordered
  have precedes := (List.pairwise_cons.mp orderedBehind).1
  rcases way with ⟨assignment, last⟩
  obtain ⟨fills, less⟩ := (mem_iff assignment last).mp (List.mem_append_right _ List.mem_cons_self)
  obtain ⟨valid, stop_eq, -⟩ := fills.isValid noReferences defined less
  have listed (other : Assignment) (otherValid : other.IsValid query positions start) :
      ∃ otherLast : SearchNode, other.stop? = some otherLast.place ∧
        (other, otherLast) ∈ earlierWays ++ (assignment, last) :: laterWays := by
    obtain ⟨otherLast, otherFills, otherLess⟩ :=
      exists_fills_of_isValid noReferences defined otherValid offered
    exact ⟨otherLast, (otherFills.isValid noReferences defined otherLess).2.1,
      (mem_iff other otherLast).mpr ⟨otherFills, otherLess⟩⟩
  refine ⟨assignment, ⟨valid, stop_eq, fun other otherValid => ?farthest,
    fun other otherValid reaches => ?first⟩,
    congrArg (Occurrence.mk start last.place) (fills.bindings_eq noReferences defined less)⟩
  case farthest =>
      obtain ⟨otherLast, otherStop_eq, otherMember⟩ := listed other otherValid
      refine ⟨otherLast.place, otherStop_eq, ?_⟩
      rcases List.mem_append.mp otherMember with member | member
      · exact Nat.le_of_lt (shorter _ (List.mem_map_of_mem member))
      · rcases List.mem_cons.mp member with equal | member
        · rw [(Prod.mk.inj equal).2]
          exact Nat.le_refl _
        · exact noLonger _ (List.mem_map_of_mem member)
  case first =>
      obtain ⟨otherLast, otherStop_eq, otherMember⟩ := listed other otherValid
      -- what was met earlier ends before the place, so the other way comes later
      rcases List.mem_append.mp otherMember with member | member
      · have less : otherLast.place < last.place := shorter _ (List.mem_map_of_mem member)
        have equal : otherLast.place = last.place :=
          Option.some.inj (otherStop_eq.symm.trans reaches)
        exact absurd less (Nat.not_lt_of_le (Nat.le_of_eq equal.symm))
      · rcases List.mem_cons.mp member with equal | member
        · exact Or.inl (Prod.mk.inj equal).1
        · exact Or.inr (precedes _ member)

end Spec

/--
The answer of a query without references.  The search fails only where the table of features does
not define what a group asks for.  Otherwise there is an answer if there are valid assignments, and
it is what the first one of those that reach farthest binds.
-/
theorem occurrenceAt?_first_of_farthest
    (noReferences : ∀ slot ∈ query.slots, slot.reference = none)
    (defined : ∀ table, query.table = some table → table.Defined) (sentence : Sentence)
    (start : Nat) :
    (∀ fault, query.occurrenceAt? sentence start = .error fault →
        ∃ index group table cause, query.groupAt index = some group ∧ query.table = some table ∧
          table.resolve group.agreement.filter = .error cause ∧
            fault = .agreement index cause) ∧
      ∀ answer, query.occurrenceAt? sentence start = .ok answer →
        (answer = none ↔
            ¬∃ assignment : Assignment, assignment.IsValid query sentence.positions start) ∧
          ∀ occurrence, answer = some occurrence →
            ∃ assignment : Assignment,
              assignment.IsFirstOfFarthest query sentence.positions start occurrence.stop ∧
                occurrence =
                  ⟨start, occurrence.stop, query.bindingsBy sentence.positions assignment⟩ ∧
                  ∀ (other : Assignment) (stop : Nat),
                    other.IsFirstOfFarthest query sentence.positions start stop →
                      other = assignment := by
  constructor
  · intro fault failed
    obtain ⟨index, slot, standing, fails⟩ := exists_failsAt_of_occurrenceAt? failed
    cases fails with
    | unresolved unresolved =>
        rw [resolve_of_reference_eq_none (noReferences slot (List.mem_of_getElem? standing))]
          at unresolved
        cases unresolved
    | undefined belongs table_eq unresolved =>
        exact ⟨index, _, _, _, belongs, table_eq, unresolved, rfl⟩
  · intro answer answered
    rw [occurrenceAt?_eq_offers] at answered
    split at answered
    case isTrue noSearch =>
        rcases Except.ok.inj answered with rfl
        refine ⟨iff_of_true rfl ?_, fun _ absent => by cases absent⟩
        rintro ⟨assignment, valid⟩
        rw [Bool.or_eq_true, decide_eq_true_eq, List.isEmpty_iff] at noSearch
        rcases noSearch with noSlots | beyond
        · exact valid.slots_ne_nil noSlots
        · exact absurd valid.start_lt_length (Nat.not_lt_of_le beyond)
    case isFalse =>
        rcases Outcome.map_eq_ok_iff.mp answered with ⟨met, offered, rfl⟩
        constructor
        · rw [SearchState.foldl_keep_eq_none_iff]
          exact offers_eq_nil_iff noReferences defined offered
        · intro occurrence kept
          obtain ⟨assignment, isFirst, occurrence_eq⟩ :=
            exists_isFirstOfFarthest_of_offers noReferences defined offered kept
          exact ⟨assignment, isFirst, occurrence_eq, fun other stop => isFirst.unique⟩

/-- Three words are shared by two slots for one or two words each; the first slot takes two. -/
theorem occurrenceAt?_first_of_farthest_of_shared_words :
    ∃ slots : List Slot,
      [{ SlotSpec.anyWord with most := 2, skip := 1 }, { SlotSpec.anyWord with most := 2 }].mapM
        SlotSpec.compile = .ok slots ∧
      let query : Query := ⟨slots, none, none, .plain "en" "English", .respected⟩
      let sentence : Sentence := .ofWords ["a", "b", "c"]
      query.occurrenceAt? sentence 1 =
          .ok (some ⟨1, 4, [⟨0, 1, [0]⟩, ⟨0, 2, [0]⟩, ⟨1, 3, [0]⟩]⟩) ∧
        ∃ assignment : Assignment,
          assignment.IsFirstOfFarthest query sentence.positions 1 4 ∧
            query.bindingsBy sentence.positions assignment =
                [⟨0, 1, [0]⟩, ⟨0, 2, [0]⟩, ⟨1, 3, [0]⟩] ∧
              ∀ (other : Assignment) (stop : Nat),
                other.IsFirstOfFarthest query sentence.positions 1 stop → other = assignment := by
  refine ⟨_, rfl, ?_⟩
  intro query sentence
  have answered : query.occurrenceAt? sentence 1 =
      .ok (some ⟨1, 4, [⟨0, 1, [0]⟩, ⟨0, 2, [0]⟩, ⟨1, 3, [0]⟩]⟩) := by
    rw [occurrenceAt?_eq_offers]
    decide +kernel
  have noReferences : ∀ slot ∈ query.slots, slot.reference = none := by decide
  have spec := occurrenceAt?_first_of_farthest noReferences
    (fun _ impossible => by cases impossible) sentence 1
  obtain ⟨assignment, isFirst, occurrence_eq, unique⟩ := (spec.2 _ answered).2 _ rfl
  exact ⟨answered, assignment, isFirst, (congrArg Occurrence.bindings occurrence_eq).symm, unique⟩

end Query

end PhraseRules
