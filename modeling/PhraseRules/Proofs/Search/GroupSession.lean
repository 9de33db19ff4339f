import PhraseRules.Proofs.Search.Validity

/-!
# The session of an open group

A search carries a session with the words of the group that it is in.  `Query.SessionOf` ties the
session to a list of words for each group, wherever these come from.  The lemmas of this module say
what adding words and leaving a slot do to it, and when either is possible.
-/

namespace PhraseRules

/-- What a bound word adds to the agreement of the group of the slot. -/
def Slot.stepOf (slot : Slot) (positions : List Position) (binding : Binding) : AgreementStep :=
  let position := positions[binding.position]?.getD default
  if slot.neutral then .addNeutral binding.position position
  else .addBound binding.position position binding.readings

namespace Query

variable {query : Query} {positions : List Position} {index : Nat} {slot : Slot}
  {group : AgreementGroup} {table : FeatureTable} {features : List ResolvedFeature}
  {words : AgreementGroup → List AgreementStep} {session : Option AgreementSession}
  {added : List Binding} {node next : SearchNode}

/--
The session before a slot holds the words so far of the group of the slot; there is none as long as
there are no such words.
-/
def SessionOf (query : Query) (words : AgreementGroup → List AgreementStep) (index : Nat) :
    Option AgreementSession → Prop
  | none => ∀ group, query.groupAt index = some group → words group = []
  | some session => ∃ group table features, query.groupAt index = some group ∧
      query.table = some table ∧ table.resolve group.agreement.filter = .ok features ∧
        words group ≠ [] ∧ session = (AgreementSession.opened features).run (words group)

/-- Outside of the groups there is no session. -/
theorem SessionOf.eq_none (holds : query.SessionOf words index session)
    (noGroup : query.groupAt index = none) : session = none := by
  cases session with
  | none => rfl
  | some session =>
      rcases holds with ⟨group, -, -, belongs, -⟩
      rw [noGroup] at belongs
      cases belongs

theorem SessionOf.exists_of_ne_nil (holds : query.SessionOf words index session)
    (belongs : query.groupAt index = some group) (nonempty : words group ≠ []) :
    ∃ table features, query.table = some table ∧
      table.resolve group.agreement.filter = .ok features ∧
        session = some ((AgreementSession.opened features).run (words group)) := by
  cases session with
  | none => exact absurd (holds group belongs) nonempty
  | some session =>
      rcases holds with ⟨other, table, features, same, table_eq, resolved, -, rfl⟩
      rcases Option.some.inj (belongs.symm.trans same) with rfl
      exact ⟨table, features, table_eq, resolved, rfl⟩

theorem SessionOf.ne_nil_of_eq_some (holds : query.SessionOf words index session)
    (belongs : query.groupAt index = some group) {opened : AgreementSession}
    (session_eq : session = some opened) : words group ≠ [] := by
  rw [session_eq] at holds
  rcases holds with ⟨other, table, features, same, -, -, nonempty, -⟩
  rcases Option.some.inj (belongs.symm.trans same) with rfl
  exact nonempty

/-- A session depends only on the words of the group that it is in. -/
theorem SessionOf.congr {others : AgreementGroup → List AgreementStep}
    (holds : query.SessionOf words index session)
    (same : ∀ group, query.groupAt index = some group → words group = others group) :
    query.SessionOf others index session := by
  cases session with
  | none => exact fun group belongs => (same group belongs).symm.trans (holds group belongs)
  | some session =>
      rcases holds with ⟨group, table, features, belongs, rest⟩
      rw [same group belongs] at rest
      exact ⟨group, table, features, belongs, rest⟩

theorem isUnified_iff_agree (defined : table.Defined) (table_eq : query.table = some table)
    (resolved : table.resolve group.agreement.filter = .ok features)
    (words : List AgreementStep) :
    ((AgreementSession.opened features).run words).isUnified = true ↔ query.Agree group words := by
  rw [AgreementSession.isUnified_run_iff_exists_isRequested (defined.wellFormed.resolve resolved)]
  simp only [Agree, table_eq, Option.some.injEq, exists_eq_left']

theorem isEmpty_run (features : List ResolvedFeature) {words : List AgreementStep}
    (nonempty : words ≠ []) :
    ((AgreementSession.opened features).run words).isEmpty = false := by
  rw [AgreementSession.isEmpty, AgreementSession.committed_run, List.isEmpty_eq_false_iff]
  exact fun empty => nonempty (List.map_eq_nil_iff.mp empty)

/-! ## Adding words -/

theorem foldl_add_eq_run (slot : Slot) (positions : List Position) (opened : AgreementSession)
    (added : List Binding) :
    added.foldl
        (fun session binding =>
          let position := positions[binding.position]?.getD default
          if slot.neutral then session.addNeutral binding.position position
          else session.addBound binding.position position binding.readings)
        opened =
      opened.run (added.map (slot.stepOf positions)) := by
  rw [AgreementSession.run, List.foldl_map]
  congr 1
  funext session binding
  rw [Slot.stepOf]
  cases slot.neutral <;> rfl

/-- Words are added to those of their group, unless all of them can no longer agree. -/
theorem SessionOf.extendSession_eq (holds : query.SessionOf words index session)
    (belongs : query.groupAt index = some group) (table_eq : query.table = some table)
    (slot : Slot) (positions : List Position) (added : List Binding) :
    query.extendSession (some group) index slot positions session added =
      match table.resolve group.agreement.filter with
      | .error fault => .error (.agreement index fault)
      | .ok features =>
          let grown := (AgreementSession.opened features).run
            (words group ++ added.map (slot.stepOf positions))
          if !group.agreement.negated && !grown.isUnified then .ok none
          else .ok (some (some grown)) := by
  simp only [extendSession, table_eq]
  cases session with
  | none =>
      rw [holds group belongs, List.nil_append]
      rw [AgreementSession.start]
      cases table.resolve group.agreement.filter with
      | error fault => rfl
      | ok features =>
          simp only [Outcome.ok_bind, foldl_add_eq_run]
          rfl
  | some session =>
      rcases holds with ⟨other, otherTable, features, otherBelongs, otherTable_eq, resolved, -, rfl⟩
      rcases Option.some.inj (belongs.symm.trans otherBelongs) with rfl
      rcases Option.some.inj (table_eq.symm.trans otherTable_eq) with rfl
      rw [resolved]
      simp only [Outcome.ok_bind, foldl_add_eq_run, AgreementSession.run_append]

/--
Words can be added if those of their group agree with them, or need not.  Then the session holds
them as well.
-/
theorem SessionOf.extend (defined : ∀ table, query.table = some table → table.Defined)
    (holds : query.SessionOf words index session) (nonempty : added ≠ [])
    {extended : Option (Option AgreementSession)}
    (extended_eq : query.extendSession (query.groupAt index) index slot positions session added =
      .ok extended) :
    (extended.isSome ↔ ∀ group, query.groupAt index = some group →
        group.agreement.negated = false →
          query.Agree group (words group ++ added.map (slot.stepOf positions))) ∧
      ∀ extension, extended = some extension →
        query.SessionOf (fun group => words group ++ added.map (slot.stepOf positions)) index
          extension := by
  cases belongs : query.groupAt index with
  | none =>
      rw [belongs] at extended_eq
      rcases Except.ok.inj extended_eq with rfl
      refine ⟨by simp, ?_⟩
      rintro _ ⟨⟩
      rw [holds.eq_none belongs]
      intro group impossible
      rw [belongs] at impossible
      cases impossible
  | some group =>
      rcases exists_table_of_groupAt belongs with ⟨table, table_eq⟩
      rw [belongs, holds.extendSession_eq belongs table_eq] at extended_eq
      cases resolved : table.resolve group.agreement.filter with
      | error fault =>
          rw [resolved] at extended_eq
          cases extended_eq
      | ok features =>
          have agree_iff := isUnified_iff_agree (defined table table_eq) table_eq resolved
            (words group ++ added.map (slot.stepOf positions))
          rw [resolved] at extended_eq
          dsimp only at extended_eq
          simp only [Option.some.injEq, forall_eq', ← agree_iff]
          split at extended_eq
          case isTrue fails =>
              rcases Except.ok.inj extended_eq with rfl
              rw [Bool.and_eq_true, Bool.not_eq_true', Bool.not_eq_true'] at fails
              simp [fails]
          case isFalse goesOn =>
              rcases Except.ok.inj extended_eq with rfl
              rw [Bool.and_eq_true, Bool.not_eq_true', Bool.not_eq_true', not_and,
                Bool.not_eq_false] at goesOn
              refine ⟨iff_of_true rfl goesOn, ?_⟩
              rintro _ ⟨⟩
              refine ⟨group, table, features, belongs, table_eq, resolved, ?_, rfl⟩
              exact List.append_ne_nil_of_right_ne_nil _ (mt List.map_eq_nil_iff.mp nonempty)

/-! ## Leaving a slot -/

/-- The words of a group, if there are any, agree unless the group asks for the opposite. -/
def SatisfiesAgreement (query : Query) (group : AgreementGroup)
    (words : List AgreementStep) : Prop :=
  words ≠ [] → (query.Agree group words ↔ group.agreement.negated = false)

/-- A slot can be left unless a group ends there whose words do not agree as they should. -/
theorem SessionOf.isSome_leaveSlot_iff
    (defined : ∀ table, query.table = some table → table.Defined)
    (holds : query.SessionOf words index node.session) :
    (leaveSlot (query.groupAt index) index node).isSome ↔
      ∀ group, query.groupAt index = some group → group.last = index →
        query.SatisfiesAgreement group (words group) := by
  cases belongs : query.groupAt index with
  | none => simp [leaveSlot]
  | some group =>
      simp only [Option.some.injEq, forall_eq', leaveSlot]
      split
      case isFalse inside => simp [inside]
      case isTrue ends =>
          rw [closeGroup]
          simp only [ends, forall_const]
          cases session_eq : node.session with
          | none =>
              rw [session_eq] at holds
              simp [SatisfiesAgreement, holds group belongs]
          | some session =>
              rw [session_eq] at holds
              rcases holds with
                ⟨other, table, features, otherBelongs, table_eq, resolved, nonempty, rfl⟩
              rcases Option.some.inj (belongs.symm.trans otherBelongs) with rfl
              have agree_iff := isUnified_iff_agree (defined table table_eq) table_eq resolved
                (words group)
              rw [SatisfiesAgreement, ← agree_iff]
              simp only [isEmpty_run features nonempty, nonempty, ne_eq, not_false_eq_true,
                forall_const]
              generalize ((AgreementSession.opened features).run (words group)).isUnified = agrees
              cases group.agreement.negated with
              | true => cases agrees <;> simp
              | false => cases agrees <;> simp

/--
Closing a group ends its session.  The words of the group get the readings by which they agree,
unless there are no words or they were to disagree; then everything stays bound as it is.
-/
theorem closeGroup_eq_some (closed : closeGroup group node = some next) :
    ∃ bindings, next = { node with bindings := bindings, session := none } ∧
      (bindings = node.bindings ∧
          (∀ session, node.session = some session → session.isEmpty = false →
            group.agreement.negated = true) ∨
        ∃ session, node.session = some session ∧ session.isEmpty = false ∧
          group.agreement.negated = false ∧
            bindings = bindAgreed group session node.bindings) := by
  rw [closeGroup] at closed
  cases session_eq : node.session with
  | none =>
      rw [session_eq] at closed
      rcases Option.some.inj closed with rfl
      exact ⟨node.bindings, by rw [← session_eq], Or.inl ⟨rfl, fun _ absent => by cases absent⟩⟩
  | some session =>
      rw [session_eq] at closed
      dsimp only at closed
      split at closed
      case isTrue empty =>
          rcases Option.some.inj closed with rfl
          refine ⟨node.bindings, rfl, Or.inl ⟨rfl, ?_⟩⟩
          rintro _ ⟨⟩ nonempty
          rw [empty] at nonempty
          cases nonempty
      case isFalse nonempty =>
          split at closed
          case isTrue negated =>
              split at closed <;> cases closed
              exact ⟨node.bindings, rfl, Or.inl ⟨rfl, fun _ _ _ => negated⟩⟩
          case isFalse asked =>
              split at closed <;> cases closed
              exact ⟨_, rfl, Or.inr ⟨session, rfl, Bool.eq_false_iff.mpr nonempty,
                Bool.eq_false_iff.mpr asked, rfl⟩⟩

/-- When a slot has been left, the session holds the words so far of the group of the next one. -/
theorem SessionOf.leave (holds : query.SessionOf words index node.session)
    (entering : ∀ group, query.groupAt (index + 1) = some group →
      query.groupAt index ≠ some group → words group = [])
    (left : leaveSlot (query.groupAt index) index node = some next) :
    query.SessionOf words (index + 1) next.session := by
  have withoutSession (ended : ∀ group, query.groupAt index = some group →
      query.groupAt (index + 1) = some group → words group = []) :
      query.SessionOf words (index + 1) none := by
    intro group belongs
    by_cases same : query.groupAt index = some group
    · exact ended group same belongs
    · exact entering group belongs same
  cases belongs : query.groupAt index with
  | none =>
      rw [belongs] at left
      rcases Option.some.inj left with rfl
      rw [holds.eq_none belongs]
      refine withoutSession fun group same => ?_
      rw [belongs] at same
      cases same
  | some group =>
      rw [belongs, leaveSlot] at left
      by_cases ends : group.last = index
      · rw [if_pos ends] at left
        obtain ⟨bindings, rfl, -⟩ := closeGroup_eq_some left
        refine withoutSession fun other same behind => ?_
        rcases Option.some.inj (belongs.symm.trans same) with rfl
        exact absurd behind (groupAt_succ_ne belongs ends)
      · rw [if_neg ends] at left
        rcases Option.some.inj left with rfl
        cases session_eq : node.session with
        | none =>
            rw [session_eq] at holds
            exact withoutSession fun other same _ => holds other same
        | some session =>
            rw [session_eq] at holds
            rcases holds with ⟨other, table, features, same, rest⟩
            rcases Option.some.inj (belongs.symm.trans same) with rfl
            exact ⟨group, table, features, groupAt_succ belongs ends, rest⟩

end Query

end PhraseRules
