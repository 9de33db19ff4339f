import PhraseRules.Proofs.Search.Bindings

/-!
# Agreement in an occurrence

The words of a group agree by the readings that the occurrence has for them.  If the group asks for
agreement, what is left of its words are exactly readings by which they agree; if it asks for the
opposite, they have no selection of classes in common.
-/

namespace PhraseRules

namespace Binding

/-- The reading of the word that has the number belongs to all classes of the selection. -/
def RealizesWith (binding : Binding) (positions : List Position) (number : Nat)
    (selection : ClassSelection) : Prop :=
  ∃ position reading, positions[binding.position]? = some position ∧
    position.readings[number]? = some reading ∧ selection.IsRealizedBy position reading

/-- The word has a reading that belongs to all classes of the selection. -/
def Realizes (binding : Binding) (positions : List Position) (selection : ClassSelection) : Prop :=
  ∃ number ∈ binding.readings, binding.RealizesWith positions number selection

end Binding

namespace Query

/-- The readings of the word have to agree with those of the other words of the group. -/
def Limits (query : Query) (group : AgreementGroup) (binding : Binding) : Prop :=
  group.contains binding.slot = true ∧ query.isNeutral binding.slot = false

/-- The selection is one that the group requests, and all words that limit the group realize it. -/
def Concord (query : Query) (positions : List Position) (group : AgreementGroup)
    (bindings : List Binding) (selection : ClassSelection) : Prop :=
  ∃ table, query.table = some table ∧ selection.IsRequested table group.agreement.filter ∧
    ∀ binding ∈ bindings, query.Limits group binding → binding.Realizes positions selection

variable {query : Query} {positions : List Position} {bound : List Binding} {binding : Binding}
  {group : AgreementGroup} {selection : ClassSelection} {limit index : Nat} {node : SearchNode}

theorem realizes_wordAt_iff {position : Position}
    (standing : positions[binding.position]? = some position)
    (limits : query.isNeutral binding.slot = false) :
    (query.wordAt positions binding).Realizes selection ↔ binding.Realizes positions selection := by
  simp only [AgreementStep.Realizes, AgreementStep.mem_readings_iff, wordAt_numbers limits,
    wordAt_position standing, Binding.Realizes, Binding.RealizesWith, standing, Option.some.injEq]
  constructor
  · rintro ⟨⟨number, reading⟩, ⟨member, found⟩, realized⟩
    exact ⟨number, member, position, reading, rfl, found, realized⟩
  · rintro ⟨number, member, _, reading, rfl, found, realized⟩
    exact ⟨⟨number, reading⟩, ⟨member, found⟩, realized⟩

namespace BoundSoFar

variable (soFar : query.BoundSoFar positions bound limit index node)

include soFar

theorem exists_standing (member : binding ∈ bound) :
    ∃ position, positions[binding.position]? = some position := by
  rcases soFar.filled binding member with ⟨slot, position, isBound⟩
  exact ⟨position, isBound.standing⟩

/-- The words of a group realize a selection if the bound words that limit the group do. -/
theorem allRealize_iff :
    AgreementStep.AllRealize (query.boundWords positions bound group) selection ↔
      ∀ binding ∈ bound, query.Limits group binding → binding.Realizes positions selection := by
  constructor
  · intro realize binding member limits
    rcases soFar.exists_standing member with ⟨position, standing⟩
    rw [← realizes_wordAt_iff standing limits.2]
    exact realize _ (wordAt_mem_boundWords member limits.1) (wordAt_neutral.trans limits.2)
  · intro realize word wordMember limits
    rcases List.mem_map.mp wordMember with ⟨binding, member, rfl⟩
    rcases List.mem_filter.mp member with ⟨member, contained⟩
    rcases soFar.exists_standing member with ⟨position, standing⟩
    rw [wordAt_neutral] at limits
    rw [realizes_wordAt_iff standing limits]
    exact realize binding member ⟨contained, limits⟩

theorem realizes_of_agreed (member : binding ∈ bound) (limits : query.Limits group binding)
    (shares : query.Shares group (query.boundWords positions bound group) selection) :
    ∃ number ∈ query.agreedReadings group (query.boundWords positions bound group)
        (query.wordAt positions binding),
      binding.RealizesWith positions number selection := by
  obtain ⟨table, table_eq, requested, realize⟩ := id shares
  rcases soFar.exists_standing member with ⟨position, standing⟩
  rcases soFar.allRealize_iff.mp realize binding member limits with
    ⟨number, numberMember, realized⟩
  refine ⟨number, mem_agreedReadings_iff.mpr ?_, realized⟩
  obtain ⟨_, reading, same, found, isRealized⟩ := realized
  rcases Option.some.inj (standing.symm.trans same) with rfl
  rw [← wordAt_position standing] at found isRealized
  rw [wordAt_numbers limits.2]
  exact ⟨numberMember, reading, found, Or.inr ⟨selection, shares, isRealized⟩⟩

/-- The readings that are left of the words of a group have the same selections in common. -/
theorem concord_iff_shares (groupMember : some group ∈ query.groups) (ended : group.last < index) :
    query.Concord positions group (bound.map (query.settled positions bound index)) selection ↔
      query.Shares group (query.boundWords positions bound group) selection := by
  constructor
  · rintro ⟨table, table_eq, requested, realize⟩
    refine ⟨table, table_eq, requested, soFar.allRealize_iff.mpr ?_⟩
    intro binding member limits
    have limitsSettled : query.Limits group (query.settled positions bound index binding) := by
      rwa [Limits, settled_slot]
    rcases realize _ (List.mem_map_of_mem member) limitsSettled with
      ⟨number, numberMember, realized⟩
    rw [Binding.RealizesWith, settled_position] at realized
    exact ⟨number, (settled_readings_sublist limits.2).subset numberMember, realized⟩
  · intro shares
    obtain ⟨table, table_eq, requested, realize⟩ := id shares
    refine ⟨table, table_eq, requested, ?_⟩
    intro _ settledMember limits
    rcases List.mem_map.mp settledMember with ⟨binding, member, rfl⟩
    rw [Limits, settled_slot] at limits
    have belongs := (groupAt_eq_some_iff groupMember).mpr limits.1
    cases negated : group.agreement.negated with
    | true =>
        rw [settled_eq_self]
        · exact soFar.allRealize_iff.mp realize binding member limits
        · intro other otherBelongs _
          rcases Option.some.inj (belongs.symm.trans otherBelongs) with rfl
          exact negated
    | false =>
        rw [settled_of_ended belongs ended negated]
        exact soFar.realizes_of_agreed member limits shares

end BoundSoFar

/--
The words of a group agree in an occurrence as the group asks for.  If it asks for agreement, the
words that limit it have a selection in common, and every reading that is left of such a word
belongs to one.  If it asks for the opposite, they have none in common.
-/
theorem occurrence_concords (defined : ∀ table, query.table = some table → table.Defined)
    {sentence : Sentence} {start : Nat} {occurrence : Occurrence}
    (found : query.occurrenceAt? sentence start = .ok (some occurrence))
    (member : some group ∈ query.groups)
    (limited : ∃ binding ∈ occurrence.bindings, query.Limits group binding) :
    ((query.slots.drop group.first).take (group.last + 1 - group.first)).findSome? (·.agreement) =
        some group.agreement ∧
      (group.agreement.negated = false →
        (∃ selection,
            query.Concord sentence.positions group occurrence.bindings selection) ∧
          ∀ binding ∈ occurrence.bindings, query.Limits group binding →
            ∀ number ∈ binding.readings, ∃ selection,
              query.Concord sentence.positions group occurrence.bindings selection ∧
                binding.RealizesWith sentence.positions number selection) ∧
      (group.agreement.negated = true →
        ¬∃ selection, query.Concord sentence.positions group occurrence.bindings selection) := by
  rcases exists_boundSoFar_of_occurrenceAt? defined found with ⟨bound, last, bindings_eq, soFar⟩
  rw [soFar.bindings_eq] at bindings_eq
  rw [bindings_eq] at limited ⊢
  have ended := last_lt_length member
  have nonempty : query.boundWords sentence.positions bound group ≠ [] := by
    rcases limited with ⟨_, settledMember, limits⟩
    rcases List.mem_map.mp settledMember with ⟨binding, bindingMember, rfl⟩
    rw [Limits, settled_slot] at limits
    exact boundWords_ne_nil bindingMember limits.1
  have agrees := soFar.agrees group member ended nonempty
  rw [agree_iff_exists_shares] at agrees
  refine ⟨agreement_eq member, fun asked => ⟨?_, ?_⟩, fun negated => ?_⟩
  · rcases agrees.mpr asked with ⟨selection, shares⟩
    exact ⟨selection, (soFar.concord_iff_shares member ended).mpr shares⟩
  · intro _ settledMember limits number numberMember
    rcases List.mem_map.mp settledMember with ⟨binding, bindingMember, rfl⟩
    rw [Limits, settled_slot] at limits
    have belongs := (groupAt_eq_some_iff member).mpr limits.1
    rcases soFar.exists_standing bindingMember with ⟨position, standing⟩
    rw [settled_of_ended belongs ended asked] at numberMember
    obtain ⟨-, reading, foundReading, neutral | ⟨selection, shares, realized⟩⟩ :=
      mem_agreedReadings_iff.mp numberMember
    · rw [wordAt_neutral, limits.2] at neutral
      cases neutral
    · rw [wordAt_position standing] at foundReading realized
      refine ⟨selection, (soFar.concord_iff_shares member ended).mpr shares, ?_⟩
      rw [Binding.RealizesWith, settled_position]
      exact ⟨position, reading, standing, foundReading, realized⟩
  · rintro ⟨selection, concord⟩
    have asked := agrees.mp ⟨selection, (soFar.concord_iff_shares member ended).mp concord⟩
    rw [negated] at asked
    cases asked

/-- An article and a noun have the singular in common, the only number that is left of the noun. -/
theorem occurrence_concords_of_number :
    ∃ (table : FeatureTable) (slots : List Slot),
      (FeatureTable.define [] "number" "sg" (.tagged "sg") >>= fun singular =>
        FeatureTable.define singular "number" "pl" (.tagged "pl")) = .ok table ∧
      [{ SlotSpec.word "la" with
          caseSensitive := true, agreement := some ⟨[("number", [])], false⟩ },
        { SlotSpec.headword "crisis" with
          caseSensitive := true, agreement := some ⟨[("number", [])], false⟩ }].mapM
        SlotSpec.compile = .ok slots ∧
      let query : Query := ⟨slots, some table, none, .plain "es" "Español", .respected⟩
      let group : AgreementGroup := ⟨0, 1, ⟨[("number", [])], false⟩⟩
      let positions : List Position :=
        [.opening, (Position.ofWord "la" 0).addReading (.tagged "la" "el" "sg"),
          ((Position.ofWord "crisis" 3).addReading (.tagged "crisis" "crisis" "pl")).addReading
            (.tagged "crisis" "crisis" "sg")]
      let bindings : List Binding := [⟨0, 1, [0]⟩, ⟨1, 2, [1]⟩]
      query.occurrenceAt? ⟨positions⟩ 1 = .ok (some ⟨1, 3, bindings⟩) ∧
        some group ∈ query.groups ∧ (∃ binding ∈ bindings, query.Limits group binding) ∧
          (∃ selection, query.Concord positions group bindings selection) ∧
            ∀ binding ∈ bindings, query.Limits group binding → ∀ number ∈ binding.readings,
              ∃ selection, query.Concord positions group bindings selection ∧
                binding.RealizesWith positions number selection := by
  have defined : FeatureTable.Defined _ :=
    .define (.define .empty (rfl : FeatureTable.define [] "number" "sg" (.tagged "sg") = .ok _))
      (rfl : FeatureTable.define _ "number" "pl" (.tagged "pl") = .ok _)
  refine ⟨_, _, rfl, rfl, ?_⟩
  intro query group positions bindings
  have groups_eq : query.groups = List.replicate 2 (some group) := by
    simp [query, group, groups, groupsFrom, Slot.joinsAgreement]
  have answered : query.occurrenceAt? ⟨positions⟩ 1 = .ok (some ⟨1, 3, bindings⟩) := by
    rw [occurrenceAt?_eq_offers, slotsFrom, groups_eq]
    decide +kernel
  have member : some group ∈ query.groups := by
    rw [groups_eq]
    exact List.mem_cons_self
  have limited : ∃ binding ∈ bindings, query.Limits group binding :=
    ⟨⟨0, 1, [0]⟩, List.mem_cons_self, rfl, rfl⟩
  have concords := occurrence_concords
    (fun table table_eq => by cases table_eq; exact defined) answered member limited
  exact ⟨answered, member, limited, concords.2.1 rfl⟩

end Query

end PhraseRules
