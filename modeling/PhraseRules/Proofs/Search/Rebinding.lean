import PhraseRules.Proofs.Search.GroupSession

/-!
# The readings that are left when a group is closed

When a group is closed its words get the readings by which they agree.  `Query.agreedReadings` says
which these are without referring to a session, and `bindAgreed_run` that every word of the group
gets its own.
-/

namespace PhraseRules

/-! ## One word after the other -/

/-- A bound word with other readings, if they are those of its place in the group and not none. -/
def AgreementGroup.rebind (group : AgreementGroup) (binding : Binding) (word : Nat × List Nat) :
    Binding :=
  if word.2.isEmpty then binding
  else if binding.position = word.1 ∧ group.contains binding.slot then
    { binding with readings := word.2 }
  else binding

section Rebind

variable {group : AgreementGroup} {binding : Binding} {word : Nat × List Nat}
  {words : List (Nat × List Nat)}

/-- Agreed words are bound one after the other, each of them wherever it stands. -/
theorem bindAgreed_eq_map (group : AgreementGroup) (session : AgreementSession)
    (bindings : List Binding) :
    Query.bindAgreed group session bindings =
      bindings.map fun binding => (session.agreedWords.map fun word =>
        (word.position, word.readings.map (·.index))).foldl group.rebind binding := by
  rw [Query.bindAgreed]
  generalize session.agreedWords = words
  induction words generalizing bindings with
  | nil => exact (List.map_id bindings).symm
  | cons word later induction =>
      rw [List.foldl_cons, induction]
      dsimp only
      split
      case isTrue empty => simp [AgreementGroup.rebind, empty]
      case isFalse readings =>
          rw [List.map_map]
          apply List.map_congr_left
          intro binding _
          simp [AgreementGroup.rebind, readings]

theorem foldl_rebind_of_outside
    (outside : ∀ word ∈ words, binding.position = word.1 → group.contains binding.slot = false) :
    words.foldl group.rebind binding = binding := by
  induction words with
  | nil => rfl
  | cons word later induction =>
      have unchanged : group.rebind binding word = binding := by
        have := outside word List.mem_cons_self
        rw [AgreementGroup.rebind]
        split
        · rfl
        · exact if_neg fun inside => by simp [this inside.1] at inside
      rw [List.foldl_cons, unchanged]
      exact induction fun other member => outside other (List.mem_cons_of_mem _ member)

/-- Of words at different places only the one at its own place rebinds a word. -/
theorem foldl_rebind_of_mem (distinct : words.Pairwise fun word other => word.1 ≠ other.1)
    (member : word ∈ words) (same : binding.position = word.1)
    (contained : group.contains binding.slot = true)
    (nothing : word.2 = [] → binding.readings = []) :
    words.foldl group.rebind binding = { binding with readings := word.2 } := by
  induction words with
  | nil => cases member
  | cons first later induction =>
      rcases List.pairwise_cons.mp distinct with ⟨differs, distinct⟩
      rw [List.foldl_cons]
      rcases List.mem_cons.mp member with rfl | member
      · have rebound : group.rebind binding word = { binding with readings := word.2 } := by
          rw [AgreementGroup.rebind]
          split
          case isTrue empty =>
              rw [List.isEmpty_iff.mp empty, ← nothing (List.isEmpty_iff.mp empty)]
          case isFalse => rw [if_pos ⟨same, contained⟩]
        rw [rebound]
        apply foldl_rebind_of_outside
        intro other otherMember equal
        exact absurd (same.symm.trans equal) (differs other otherMember)
      · have unchanged : group.rebind binding first = binding := by
          rw [AgreementGroup.rebind]
          split
          · rfl
          · exact if_neg fun inside => differs word member (inside.1.symm.trans same)
        rw [unchanged]
        exact induction distinct member

end Rebind

/-! ## Agreed readings -/

namespace AgreementStep

/-- A word is added with those of the numbers for which there are readings, in order. -/
theorem map_fst_readings_sublist (step : AgreementStep) :
    (step.readings.map (·.1)).Sublist step.numbers := by
  rw [readings]
  induction step.numbers with
  | nil => exact .slnil
  | cons number later induction =>
      rw [List.filterMap_cons]
      cases step.position.readings[number]? with
      | none => exact induction.cons number
      | some reading => exact induction.cons_cons number

end AgreementStep

namespace Query

/-- The selection is one that the group requests and that all words realize. -/
def Shares (query : Query) (group : AgreementGroup) (words : List AgreementStep)
    (selection : ClassSelection) : Prop :=
  ∃ table, query.table = some table ∧ selection.IsRequested table group.agreement.filter ∧
    AgreementStep.AllRealize words selection

/-- The reading is left of a word that is neutral, or has the classes of a shared selection. -/
def Keeps (query : Query) (group : AgreementGroup) (words : List AgreementStep)
    (word : AgreementStep) (reading : Reading) : Prop :=
  word.neutral = true ∨
    ∃ selection, query.Shares group words selection ∧ selection.IsRealizedBy word.position reading

open scoped Classical in
/-- The numbers of the readings that are left of a word when its group is closed. -/
noncomputable def agreedReadings (query : Query) (group : AgreementGroup)
    (words : List AgreementStep) (word : AgreementStep) : List Nat :=
  (word.readings.filter fun entry => decide (query.Keeps group words word entry.2)).map (·.1)

variable {query : Query} {group : AgreementGroup} {words : List AgreementStep}
  {word : AgreementStep} {number : Nat}

theorem agree_iff_exists_shares :
    query.Agree group words ↔ ∃ selection, query.Shares group words selection := by
  simp only [Agree, Shares]
  constructor
  · rintro ⟨table, table_eq, selection, requested, realize⟩
    exact ⟨selection, table, table_eq, requested, realize⟩
  · rintro ⟨selection, table, table_eq, requested, realize⟩
    exact ⟨table, table_eq, selection, requested, realize⟩

theorem mem_agreedReadings_iff :
    number ∈ query.agreedReadings group words word ↔
      number ∈ word.numbers ∧ ∃ reading, word.position.readings[number]? = some reading ∧
        query.Keeps group words word reading := by
  simp only [agreedReadings, List.mem_map, List.mem_filter, decide_eq_true_eq,
    AgreementStep.mem_readings_iff]
  constructor
  · rintro ⟨entry, ⟨⟨member, found⟩, keeps⟩, rfl⟩
    exact ⟨member, entry.2, found, keeps⟩
  · rintro ⟨member, reading, found, keeps⟩
    exact ⟨(number, reading), ⟨⟨member, found⟩, keeps⟩, rfl⟩

theorem agreedReadings_sublist (query : Query) (group : AgreementGroup)
    (words : List AgreementStep) (word : AgreementStep) :
    (query.agreedReadings group words word).Sublist word.numbers :=
  (List.filter_sublist.map _).trans word.map_fst_readings_sublist

open scoped Classical in
/-- A neutral word keeps all its readings. -/
theorem agreedReadings_addNeutral (query : Query) (group : AgreementGroup)
    (words : List AgreementStep) (index : Nat) (position : Position) :
    query.agreedReadings group words (.addNeutral index position) =
      List.range position.readings.length := by
  have kept_all : (AgreementStep.addNeutral index position).readings.filter (fun entry =>
      decide (query.Keeps group words (.addNeutral index position) entry.2)) =
        position.readings.mapIdx fun number reading => (number, reading) := by
    rw [← filterMap_range_getElem?]
    exact List.filter_eq_self.mpr fun _ _ => decide_eq_true (Or.inl rfl)
  rw [agreedReadings, kept_all]
  apply List.ext_getElem?
  intro number
  by_cases inside : number < position.readings.length
  case pos => simp [inside]
  case neg => simp [inside]

/-- If the words of a group agree, something is left of each that is not neutral. -/
theorem agreedReadings_ne_nil (agree : query.Agree group words) (member : word ∈ words)
    (limits : word.neutral = false) : query.agreedReadings group words word ≠ [] := by
  rcases agree_iff_exists_shares.mp agree with ⟨selection, shares⟩
  obtain ⟨table, table_eq, requested, realize⟩ := shares
  rcases realize word member limits with ⟨entry, entryMember, realized⟩
  rcases AgreementStep.mem_readings_iff.mp entryMember with ⟨numberMember, found⟩
  apply List.ne_nil_of_mem
  exact mem_agreedReadings_iff.mpr ⟨numberMember, entry.2, found,
    Or.inr ⟨selection, ⟨table, table_eq, requested, realize⟩, realized⟩⟩

open scoped Classical in
/-- Closing a group binds each of its words to the readings that are left of it. -/
theorem bindAgreed_run {table : FeatureTable} {features : List ResolvedFeature}
    (defined : table.Defined) (table_eq : query.table = some table)
    (resolved : table.resolve group.agreement.filter = .ok features)
    (words : List AgreementStep) (bindings : List Binding) :
    bindAgreed group ((AgreementSession.opened features).run words) bindings =
      bindings.map fun binding => (words.map fun word =>
        (word.index, query.agreedReadings group words word)).foldl group.rebind binding := by
  have answers := defined.wellFormed.resolve resolved
  have keeps_iff (word : AgreementStep) (entry : Nat × Reading) :
      AgreementSession.IsKept features words word entry ↔
        query.Keeps group words word entry.2 := by
    simp only [AgreementSession.IsKept, AgreementSession.IsShared, Keeps, Shares, table_eq,
      Option.some.injEq, exists_eq_left', ClassSelection.isFrom_iff_isRequested answers]
  rw [bindAgreed_eq_map, AgreementSession.agreedWords_run, List.map_map]
  congr 1
  funext binding
  congr 2
  funext word
  have kept_eq :
      (word.readings.filter fun entry =>
        decide (AgreementSession.IsKept features words word entry)) =
      word.readings.filter fun entry => decide (query.Keeps group words word entry.2) :=
    List.filter_congr fun entry _ => decide_eq_decide.mpr (keeps_iff word entry)
  simp only [Function.comp_apply, kept_eq, agreedReadings, List.map_map]
  rfl

end Query

end PhraseRules
