import PhraseRules.Proofs.Search.Rebinding

/-!
# Bound words and the groups that have ended

A word is bound by the readings that fill its slot.  When a group that asks for agreement has ended,
its words have those readings instead by which they agree: they are settled.  What has been settled
before a slot does not depend on the words that are bound from there on.
-/

namespace PhraseRules

/-! ## Readings that fill a slot -/

namespace Slot

theorem indicesFrom_sublist_range' {α : Type} (holds : α → Bool) (index : Nat)
    (elements : List α) :
    (indicesFrom holds index elements).Sublist (List.range' index elements.length) := by
  induction elements generalizing index with
  | nil => exact .slnil
  | cons element later induction =>
      rw [indicesFrom, List.length_cons, List.range'_succ]
      split
      · exact (induction (index + 1)).cons_cons index
      · exact (induction (index + 1)).cons index

/-- A word is bound by some of its readings, in their order. -/
theorem boundReadings_sublist_range (slot : Slot) (position : Position) :
    (slot.boundReadings position).Sublist (List.range position.readings.length) := by
  rw [boundReadings]
  split
  · exact List.Sublist.refl _
  · rw [List.range_eq_range']
    exact indicesFrom_sublist_range' _ 0 _

theorem boundReadings_ne_nil (slot : Slot) {position : Position}
    (analysed : position.readings ≠ []) : slot.boundReadings position ≠ [] := by
  rw [boundReadings]
  split
  case isTrue => simpa using analysed
  case isFalse lexical =>
      rw [Bool.or_eq_true, not_or, List.isEmpty_iff] at lexical
      exact lexical.1

end Slot

namespace Query

/-! ## Words and their readings -/

/-- Whether the words of the slot take no part in the agreement of their group. -/
def isNeutral (query : Query) (index : Nat) : Bool :=
  query.slots[index]?.any (·.neutral)

/-- What a bound word adds to the agreement of the group of its slot. -/
def wordAt (query : Query) (positions : List Position) (binding : Binding) : AgreementStep :=
  let position := positions[binding.position]?.getD default
  if query.isNeutral binding.slot then .addNeutral binding.position position
  else .addBound binding.position position binding.readings

/-- What the bound words add to the agreement of a group. -/
def boundWords (query : Query) (positions : List Position) (bound : List Binding)
    (group : AgreementGroup) : List AgreementStep :=
  (bound.filter fun binding => group.contains binding.slot).map (query.wordAt positions)

/--
The bound word as it stands before a slot.  If its group asks for agreement and has ended, it has
the readings that are left of it.
-/
noncomputable def settled (query : Query) (positions : List Position) (bound : List Binding)
    (index : Nat) (binding : Binding) : Binding :=
  match query.groupAt binding.slot with
  | none => binding
  | some group =>
      if group.last < index ∧ group.agreement.negated = false then
        { binding with
          readings := query.agreedReadings group (query.boundWords positions bound group)
            (query.wordAt positions binding) }
      else binding

/-- The words bound to earlier slots, as they stand before a slot. -/
noncomputable def boundBefore (query : Query) (positions : List Position) (bound : List Binding)
    (index : Nat) : List Binding :=
  (bound.filter (·.slot < index)).map (query.settled positions bound index)

/--
The position is bound to a slot by the readings that fill the slot, once the reference of the slot
has been replaced as the words bound earlier say.
-/
structure IsBound (query : Query) (positions : List Position) (earlier : List Binding)
    (binding : Binding) (slot : Slot) (position : Position) : Prop where
  resolved : ∃ declared, query.slots[binding.slot]? = some declared ∧
    query.resolve binding.slot declared positions earlier = .ok (some slot)
  standing : positions[binding.position]? = some position
  accepted : query.accepts slot position = true
  readings_eq : binding.readings = slot.boundReadings position

variable {query : Query} {positions : List Position} {bound added : List Binding}
  {binding : Binding} {index : Nat} {group : AgreementGroup} {declared slot : Slot}

theorem wordAt_index : (query.wordAt positions binding).index = binding.position := by
  rw [wordAt]
  cases query.isNeutral binding.slot <;> rfl

theorem wordAt_neutral :
    (query.wordAt positions binding).neutral = query.isNeutral binding.slot := by
  rw [wordAt]
  cases query.isNeutral binding.slot <;> rfl

theorem wordAt_position {position : Position}
    (standing : positions[binding.position]? = some position) :
    (query.wordAt positions binding).position = position := by
  rw [wordAt, standing]
  cases query.isNeutral binding.slot <;> rfl

theorem wordAt_numbers (limits : query.isNeutral binding.slot = false) :
    (query.wordAt positions binding).numbers = binding.readings := by
  rw [wordAt, limits]
  rfl

theorem IsBound.wordAt_of_isNeutral {earlier : List Binding} {position : Position}
    (isBound : query.IsBound positions earlier binding slot position)
    (neutral : query.isNeutral binding.slot = true) :
    query.wordAt positions binding = .addNeutral binding.position position := by
  rw [wordAt, neutral, isBound.standing]
  rfl

theorem neutral_of_resolve {earlier : List Binding} (standing : query.slots[index]? = some declared)
    (resolved : query.resolve index declared positions earlier = .ok (some slot)) :
    slot.neutral = query.isNeutral index := by
  rw [isNeutral, standing]
  rcases eq_of_resolve_eq_ok resolved with rfl | ⟨text, rfl⟩ <;> rfl

theorem stepOf_eq_wordAt (neutral : slot.neutral = query.isNeutral binding.slot) :
    slot.stepOf positions binding = query.wordAt positions binding := by
  simp only [Slot.stepOf, wordAt, neutral]

/-! ## Words of a group -/

theorem boundWords_append (first second : List Binding) :
    query.boundWords positions (first ++ second) group =
      query.boundWords positions first group ++ query.boundWords positions second group := by
  simp only [boundWords, List.filter_append, List.map_append]

theorem boundWords_eq_nil
    (outside : ∀ binding ∈ bound, binding.slot < group.first ∨ group.last < binding.slot) :
    query.boundWords positions bound group = [] := by
  rw [boundWords, List.map_eq_nil_iff, List.filter_eq_nil_iff]
  intro binding member
  have := outside binding member
  rw [AgreementGroup.contains_iff]
  omega

theorem wordAt_mem_boundWords (member : binding ∈ bound)
    (contained : group.contains binding.slot = true) :
    query.wordAt positions binding ∈ query.boundWords positions bound group :=
  List.mem_map_of_mem (List.mem_filter.mpr ⟨member, contained⟩)

theorem boundWords_ne_nil (member : binding ∈ bound)
    (contained : group.contains binding.slot = true) :
    query.boundWords positions bound group ≠ [] :=
  List.ne_nil_of_mem (wordAt_mem_boundWords member contained)

/-- The words of a group that has ended are not joined by later ones. -/
theorem boundWords_append_of_last_lt (later : ∀ binding ∈ added, index ≤ binding.slot)
    (ended : group.last < index) :
    query.boundWords positions (bound ++ added) group =
      query.boundWords positions bound group := by
  have nothing : query.boundWords positions added group = [] :=
    boundWords_eq_nil fun binding member => Or.inr (Nat.lt_of_lt_of_le ended (later binding member))
  rw [boundWords_append, nothing, List.append_nil]

theorem contains_of_groupAt (belongs : query.groupAt binding.slot = some group) :
    group.contains binding.slot = true :=
  (groupAt_eq_some_iff (mem_groups_of_groupAt belongs)).mp belongs

theorem eq_of_groupAt_of_last {other : AgreementGroup} (belongs : query.groupAt index = some group)
    (otherBelongs : query.groupAt binding.slot = some other) (ends : other.last = index) :
    other = group := by
  have := groupAt_last (mem_groups_of_groupAt otherBelongs)
  rw [ends, belongs] at this
  exact (Option.some.inj this).symm

/-! ## Settled words -/

@[simp]
theorem settled_slot : (query.settled positions bound index binding).slot = binding.slot := by
  rw [settled]
  split
  · rfl
  · split <;> rfl

@[simp]
theorem settled_position :
    (query.settled positions bound index binding).position = binding.position := by
  rw [settled]
  split
  · rfl
  · split <;> rfl

theorem settled_eq_self
    (unended : ∀ group, query.groupAt binding.slot = some group → group.last < index →
      group.agreement.negated = true) :
    query.settled positions bound index binding = binding := by
  rw [settled]
  split
  case h_1 => rfl
  case h_2 group belongs =>
      apply if_neg
      rintro ⟨ended, asked⟩
      rw [unended group belongs ended] at asked
      cases asked

theorem settled_of_ended (belongs : query.groupAt binding.slot = some group)
    (ended : group.last < index) (asked : group.agreement.negated = false) :
    query.settled positions bound index binding =
      { binding with
        readings := query.agreedReadings group (query.boundWords positions bound group)
          (query.wordAt positions binding) } := by
  rw [settled, belongs]
  exact if_pos ⟨ended, asked⟩

/-- A word that is not neutral loses readings and gains none. -/
theorem settled_readings_sublist (limits : query.isNeutral binding.slot = false) :
    (query.settled positions bound index binding).readings.Sublist binding.readings := by
  rw [settled]
  split
  case h_1 => exact .refl _
  case h_2 group belongs =>
      split
      case isFalse => exact .refl _
      case isTrue =>
          have sublist := query.agreedReadings_sublist group
            (query.boundWords positions bound group) (query.wordAt positions binding)
          rwa [wordAt_numbers limits] at sublist

/-- Words bound to later slots settle nothing. -/
theorem settled_append (later : ∀ binding ∈ added, index ≤ binding.slot) :
    query.settled positions (bound ++ added) index binding =
      query.settled positions bound index binding := by
  simp only [settled]
  split
  case h_1 => rfl
  case h_2 group belongs =>
      by_cases ended : group.last < index
      · rw [boundWords_append_of_last_lt later ended]
      · rw [if_neg (mt And.left ended), if_neg (mt And.left ended)]

/-- Leaving a slot settles nothing but the words of a group that ends there. -/
theorem settled_succ
    (unended : ∀ group, query.groupAt binding.slot = some group → group.last = index →
      group.agreement.negated = true) :
    query.settled positions bound (index + 1) binding =
      query.settled positions bound index binding := by
  simp only [settled]
  split
  case h_1 => rfl
  case h_2 group belongs =>
      congr 1
      rw [Nat.lt_succ_iff_lt_or_eq, eq_iff_iff]
      constructor
      · rintro ⟨ended | ends, asked⟩
        · exact ⟨ended, asked⟩
        · rw [unended group belongs ends] at asked
          cases asked
      · rintro ⟨ended, asked⟩
        exact ⟨Or.inl ended, asked⟩

theorem boundBefore_append (later : ∀ binding ∈ added, index ≤ binding.slot) :
    query.boundBefore positions (bound ++ added) index =
      query.boundBefore positions bound index := by
  have none_before : added.filter (fun binding => decide (binding.slot < index)) = [] := by
    rw [List.filter_eq_nil_iff]
    intro binding member
    simpa using later binding member
  rw [boundBefore, List.filter_append, none_before, List.append_nil]
  apply List.map_congr_left
  intro binding _
  exact settled_append later

theorem boundBefore_of_earlier (earlier : ∀ binding ∈ bound, binding.slot < index) :
    query.boundBefore positions bound index = bound.map (query.settled positions bound index) := by
  rw [boundBefore, List.filter_eq_self.mpr]
  intro binding member
  simpa using earlier binding member

end Query

end PhraseRules
