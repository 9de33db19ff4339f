import PhraseRules.Proofs.Search.Offers

/-!
# Groups of slots

A group is a stretch of neighbouring slots.  The lemmas of this module say that the groups of a
query do not overlap and that every slot of such a stretch belongs to its group.
-/

namespace PhraseRules

theorem AgreementGroup.contains_iff {group : AgreementGroup} {slot : Nat} :
    group.contains slot = true ↔ group.first ≤ slot ∧ slot ≤ group.last := by
  simp [contains]

/-- The groups of slots numbered from `index` on are stretches of these slots. -/
def GroupsStand (index : Nat) (groups : List (Option AgreementGroup)) : Prop :=
  ∀ offset group, groups[offset]? = some (some group) →
    index ≤ group.first ∧ group.contains (index + offset) = true ∧
      ∀ number, group.contains number = true → groups[number - index]? = some (some group)

namespace GroupsStand

variable {index : Nat} {first second : List (Option AgreementGroup)}

theorem replicate (index count : Nat) (group : Option AgreementGroup)
    (spans : ∀ agreed, group = some agreed →
      agreed.first = index ∧ agreed.last = index + count - 1) :
    GroupsStand index (List.replicate count group) := by
  intro offset agreed found
  rcases List.getElem?_eq_some_iff.mp found with ⟨less, equal⟩
  rw [List.length_replicate] at less
  rw [List.getElem_replicate] at equal
  rcases spans agreed equal with ⟨first_eq, last_eq⟩
  refine ⟨by omega, AgreementGroup.contains_iff.mpr (by omega), fun number contained => ?_⟩
  rw [AgreementGroup.contains_iff] at contained
  rw [List.getElem?_replicate, if_pos (by omega), equal]

theorem append (standFirst : GroupsStand index first)
    (standSecond : GroupsStand (index + first.length) second) :
    GroupsStand index (first ++ second) := by
  intro offset group found
  rcases Nat.lt_or_ge offset first.length with less | le_offset
  · rw [List.getElem?_append_left less] at found
    rcases standFirst offset group found with ⟨index_le, contained, belongs⟩
    refine ⟨index_le, contained, fun number contains => ?_⟩
    have foundNumber := belongs number contains
    rw [List.getElem?_append_left (List.getElem?_eq_some_iff.mp foundNumber).1, foundNumber]
  · rw [List.getElem?_append_right le_offset] at found
    rcases standSecond _ group found with ⟨index_le, contained, belongs⟩
    refine ⟨by omega, by rwa [show index + first.length + (offset - first.length) = index + offset
      by omega] at contained, fun number contains => ?_⟩
    have := (AgreementGroup.contains_iff.mp contains).1
    rw [List.getElem?_append_right (by omega), Nat.sub_sub]
    exact belongs number contains

end GroupsStand

theorem groupsFrom_stand (index : Nat) (slots : List Slot) :
    GroupsStand index (groupsFrom index slots) := by
  fun_induction groupsFrom index slots with
  | case1 index => intro offset group found; cases found
  | case2 index slot later joins run group induction =>
      refine .append (.replicate index run.length group fun agreed group_eq => ?_)
        (by rwa [List.length_replicate])
      rcases Option.map_eq_some_iff.mp group_eq with ⟨agreement, -, rfl⟩
      exact ⟨rfl, rfl⟩
  | case3 index slot later stands induction =>
      show GroupsStand index (List.replicate 1 none ++ groupsFrom (index + 1) later)
      exact .append (.replicate index 1 none fun _ impossible => by cases impossible) induction

/-- A group asks for what the first of its slots does that asks for agreement at all. -/
theorem groupsFrom_agreement (index : Nat) (slots : List Slot) {group : AgreementGroup}
    (member : some group ∈ groupsFrom index slots) :
    index ≤ group.first ∧
      ((slots.drop (group.first - index)).take (group.last + 1 - group.first)).findSome?
        (·.agreement) = some group.agreement := by
  fun_induction groupsFrom index slots with
  | case1 index => cases member
  | case2 index slot later joins run here induction =>
      rcases List.mem_append.mp member with member | member
      · rcases Option.map_eq_some_iff.mp (List.eq_of_mem_replicate member).symm with
          ⟨agreement, asked, rfl⟩
        have taken : (slot :: later).take run.length = run :=
          (List.prefix_iff_eq_take.mp
            ((List.prefix_cons_inj slot).mpr (List.takeWhile_prefix Slot.joinsAgreement))).symm
        have length_eq : index + run.length - 1 + 1 - index = run.length := by
          have : 0 < run.length := Nat.succ_pos _
          omega
        refine ⟨Nat.le_refl _, ?_⟩
        simp only [Nat.sub_self, List.drop_zero, length_eq, taken, asked]
      · obtain ⟨first_le, asked⟩ := induction member
        have slots_eq : slot :: later = run ++ later.dropWhile Slot.joinsAgreement := by
          simp only [run, List.cons_append, List.takeWhile_append_dropWhile]
        refine ⟨by omega, ?_⟩
        rwa [slots_eq, List.drop_append, List.drop_eq_nil_of_le (by omega), List.nil_append,
          Nat.sub_sub]
  | case3 index slot later stands induction =>
      rcases List.mem_cons.mp member with impossible | member
      · cases impossible
      · obtain ⟨first_le, asked⟩ := induction member
        refine ⟨by omega, ?_⟩
        rwa [show group.first - index = group.first - (index + 1) + 1 by omega, List.drop_succ_cons]

theorem length_groupsFrom (index : Nat) (slots : List Slot) :
    (groupsFrom index slots).length = slots.length := by
  fun_induction groupsFrom index slots with
  | case1 index => rfl
  | case2 index slot later joins run group induction =>
      have parts := congrArg List.length
        (List.takeWhile_append_dropWhile (p := Slot.joinsAgreement) (l := later))
      rw [List.length_append] at parts
      rw [List.length_append, List.length_replicate, induction, List.length_cons, List.length_cons]
      omega
  | case3 index slot later stands induction => rw [List.length_cons, induction, List.length_cons]

/-- Groups depend on nothing but what slots say about agreement. -/
theorem groupsFrom_map (change : Slot → Slot)
    (agreement_eq : ∀ slot, (change slot).agreement = slot.agreement)
    (neutral_eq : ∀ slot, (change slot).neutral = slot.neutral) (index : Nat) (slots : List Slot) :
    groupsFrom index (slots.map change) = groupsFrom index slots := by
  have joins_eq (slot : Slot) : (change slot).joinsAgreement = slot.joinsAgreement := by
    rw [Slot.joinsAgreement, Slot.joinsAgreement, agreement_eq, neutral_eq]
  have joins_comp : Slot.joinsAgreement ∘ change = Slot.joinsAgreement := funext joins_eq
  have agreement_comp : (fun slot : Slot => slot.agreement) ∘ change = (·.agreement) :=
    funext agreement_eq
  fun_induction groupsFrom index slots with
  | case1 index => rw [List.map_nil, groupsFrom]
  | case2 index slot later joins run group induction =>
      rw [List.map_cons, groupsFrom, if_pos ((joins_eq slot).trans joins), List.dropWhile_map,
        List.takeWhile_map, joins_comp, ← List.map_cons]
      dsimp only
      rw [List.length_map, List.findSome?_map, agreement_comp]
      exact congrArg (List.replicate run.length group ++ ·) induction
  | case3 index slot later stands induction =>
      rw [List.map_cons, groupsFrom, if_neg ((joins_eq slot).symm ▸ stands), induction]

namespace Query

variable {query : Query} {index : Nat} {group : AgreementGroup}

theorem groups_stand (query : Query) : GroupsStand 0 query.groups := by
  rw [groups]
  cases query.table with
  | none => exact .replicate 0 _ none fun _ impossible => by cases impossible
  | some table => exact groupsFrom_stand 0 query.slots

theorem agreement_eq (member : some group ∈ query.groups) :
    ((query.slots.drop group.first).take (group.last + 1 - group.first)).findSome? (·.agreement) =
      some group.agreement := by
  rw [groups] at member
  split at member
  case h_1 => exact (groupsFrom_agreement 0 query.slots member).2
  case h_2 => cases List.eq_of_mem_replicate member

theorem length_groups (query : Query) : query.groups.length = query.slots.length := by
  rw [groups]
  cases query.table with
  | none => exact List.length_replicate
  | some table => exact length_groupsFrom 0 query.slots

/-- The group that a slot belongs to, if it belongs to one. -/
def groupAt (query : Query) (index : Nat) : Option AgreementGroup :=
  query.groups[index]?.join

theorem groups_getElem?_eq_of_groupAt (belongs : query.groupAt index = some group) :
    query.groups[index]? = some (some group) :=
  Option.join_eq_some_iff.mp belongs

/-- A slot belongs to a group if it stands in its stretch. -/
theorem groupAt_eq_some_iff (member : some group ∈ query.groups) :
    query.groupAt index = some group ↔ group.contains index = true := by
  constructor
  · intro belongs
    have := (query.groups_stand _ _ (groups_getElem?_eq_of_groupAt belongs)).2.1
    rwa [Nat.zero_add] at this
  · intro contained
    rcases List.mem_iff_getElem?.mp member with ⟨offset, found⟩
    have := (query.groups_stand _ _ found).2.2 index contained
    rw [groupAt, ← Nat.sub_zero index, this]
    rfl

theorem mem_groups_of_groupAt (belongs : query.groupAt index = some group) :
    some group ∈ query.groups :=
  List.mem_of_getElem? (groups_getElem?_eq_of_groupAt belongs)

theorem exists_table_of_groupAt (belongs : query.groupAt index = some group) :
    ∃ table, query.table = some table := by
  have found := mem_groups_of_groupAt belongs
  rw [groups] at found
  split at found
  case h_1 table table_eq => exact ⟨table, table_eq⟩
  case h_2 => cases List.eq_of_mem_replicate found

theorem groupAt_succ (belongs : query.groupAt index = some group) (inside : group.last ≠ index) :
    query.groupAt (index + 1) = some group := by
  have member := mem_groups_of_groupAt belongs
  have contained := AgreementGroup.contains_iff.mp ((groupAt_eq_some_iff member).mp belongs)
  exact (groupAt_eq_some_iff member).mpr (AgreementGroup.contains_iff.mpr (by omega))

theorem groupAt_succ_ne (belongs : query.groupAt index = some group) (ends : group.last = index) :
    query.groupAt (index + 1) ≠ some group := by
  intro belongsBehind
  have member := mem_groups_of_groupAt belongs
  have := AgreementGroup.contains_iff.mp ((groupAt_eq_some_iff member).mp belongsBehind)
  omega

theorem lt_first_of_groupAt_succ (belongs : query.groupAt (index + 1) = some group)
    (enters : query.groupAt index ≠ some group) : index < group.first := by
  have member := mem_groups_of_groupAt belongs
  have contained := (groupAt_eq_some_iff member).mp belongs
  have outside : ¬group.contains index = true := fun contained =>
    enters ((groupAt_eq_some_iff member).mpr contained)
  rw [AgreementGroup.contains_iff] at contained outside
  omega

/-- The group of a slot ends at one of the slots from there on. -/
theorem groupAt_last (member : some group ∈ query.groups) :
    query.groupAt group.last = some group := by
  rcases List.mem_iff_getElem?.mp member with ⟨offset, found⟩
  have contained := AgreementGroup.contains_iff.mp (query.groups_stand _ _ found).2.1
  exact (groupAt_eq_some_iff member).mpr (AgreementGroup.contains_iff.mpr (by omega))

theorem last_lt_length (member : some group ∈ query.groups) : group.last < query.slots.length := by
  have found := groups_getElem?_eq_of_groupAt (groupAt_last member)
  rw [← length_groups]
  exact (List.getElem?_eq_some_iff.mp found).1

/-- The first of the remaining slots is the one with their number, and belongs to its group. -/
theorem slotsFrom_eq_cons {slot : Slot} {group : Option AgreementGroup}
    {later : List (Slot × Option AgreementGroup)}
    (rest : query.slotsFrom index = (slot, group) :: later) :
    query.slots[index]? = some slot ∧ query.groupAt index = group ∧
      query.slotsFrom (index + 1) = later := by
  have found : (query.slots.zip query.groups)[index]? = some (slot, group) := by
    rw [← List.head?_drop]
    exact congrArg List.head? rest
  rcases List.getElem?_zip_eq_some.mp found with ⟨slotFound, groupFound⟩
  exact ⟨slotFound, by rw [groupAt, groupFound]; rfl, slotsFrom_succ rest⟩

/-- Every slot of a query is filled or left out in the course of a search. -/
theorem exists_mem_slotsFrom {slot : Slot} (member : slot ∈ query.slots) :
    ∃ group, (slot, group) ∈ query.slotsFrom 0 := by
  rcases List.mem_iff_getElem?.mp member with ⟨index, standing⟩
  have inside := (List.getElem?_eq_some_iff.mp standing).1
  rw [← query.length_groups] at inside
  refine ⟨query.groups[index], List.mem_iff_getElem?.mpr ⟨index, ?_⟩⟩
  rw [slotsFrom, List.drop_zero, List.getElem?_zip_eq_some]
  exact ⟨standing, List.getElem?_eq_getElem inside⟩

theorem drop_slots_eq_cons {slot : Slot} (standing : query.slots[index]? = some slot) :
    query.slots.drop index = slot :: query.slots.drop (index + 1) := by
  rcases List.getElem?_eq_some_iff.mp standing with ⟨less, rfl⟩
  exact List.drop_eq_getElem_cons less

theorem slotsFrom_eq_nil (rest : query.slotsFrom index = []) : query.slots.length ≤ index := by
  have := List.drop_eq_nil_iff.mp rest
  rwa [List.length_zip, length_groups, Nat.min_self] at this

end Query

end PhraseRules
