import PhraseRules.Proofs.Agreement.Table
import PhraseRules.Proofs.Search.Groups
import PhraseRules.Proofs.Search.Memory
import PhraseRules.Search.Scan

/-!
# Failures of searches

A search is broken off at one of its slots: the text of a slot that refers to another one cannot be
formed, or the features of its group are not defined.  `Query.FailsAt` names the two ways, and the
theorems of this module trace the failure of a search, and of a scan, back to a slot.
-/

namespace PhraseRules.Query

open PhraseRules.Outcome

/-- How a search can be broken off at a slot. -/
inductive FailsAt (query : Query) (positions : List Position) (index : Nat) (slot : Slot) :
    SearchError → Prop where
  /-- The slot cannot be made ready behind what is bound. -/
  | unresolved {bindings : List Binding} {fault : SearchError} :
      query.resolve index slot positions bindings = .error fault →
        FailsAt query positions index slot fault
  /-- The table does not define what the group of the slot asks for. -/
  | undefined {group : AgreementGroup} {table : FeatureTable} {cause : PatternError} :
      query.groupAt index = some group → query.table = some table →
        table.resolve group.agreement.filter = .error cause →
          FailsAt query positions index slot (.agreement index cause)

variable {query : Query} {sentence : Sentence} {positions : List Position} {start index : Nat}
  {slot : Slot} {fault : SearchError}

/-- Where the features that slots ask for are defined, only a slot that cannot be made ready is left
to break off a search. -/
theorem FailsAt.exists_resolve_eq_error (fails : query.FailsAt positions index slot fault)
    (defined : ∀ (number : Nat) member agreement, query.slots[number]? = some member →
      member.agreement = some agreement → FeatureTable.Resolves query.table agreement.filter) :
    ∃ bindings, query.resolve index slot positions bindings = .error fault := by
  cases fails with
  | unresolved failed => exact ⟨_, failed⟩
  | undefined belongs table_eq unresolved =>
      have asked := agreement_eq (mem_groups_of_groupAt belongs)
      obtain ⟨member, isMember, asks⟩ := List.exists_of_findSome?_eq_some asked
      obtain ⟨number, found⟩ :=
        List.mem_iff_getElem?.mp (List.mem_of_mem_drop (List.mem_of_mem_take isMember))
      obtain ⟨table, features, defined_eq, resolved⟩ := defined number member _ found asks
      cases table_eq.symm.trans defined_eq
      cases unresolved.symm.trans resolved

/-! ## Steps -/

theorem extendSession_eq_error {group : Option AgreementGroup}
    {session : Option AgreementSession} {added : List Binding}
    (failed : query.extendSession group index slot positions session added = .error fault) :
    ∃ agreed table cause, group = some agreed ∧ query.table = some table ∧
      table.resolve agreed.agreement.filter = .error cause ∧ fault = .agreement index cause := by
  rw [extendSession.eq_def] at failed
  split at failed
  case h_2 => cases failed
  case h_1 agreed table table_eq =>
      have judged : ∀ extended : AgreementSession,
          (if !agreed.agreement.negated && !extended.isUnified then .ok none
            else .ok (some (some extended)) :
              Except SearchError (Option (Option AgreementSession))) ≠ .error fault := by
        intro extended
        split
        · exact fun impossible => by cases impossible
        · exact fun impossible => by cases impossible
      dsimp only at failed
      split at failed
      case h_1 => exact absurd failed (judged _)
      case h_2 =>
          split at failed
          case h_1 => exact absurd failed (judged _)
          case h_2 cause started =>
              cases failed
              rcases bind_eq_error_iff.mp started with unresolved | ⟨_, -, impossible⟩
              · exact ⟨agreed, table, cause, rfl, table_eq, unresolved, rfl⟩
              · cases impossible

/-- What is met behind a slot can fail only further on. -/
theorem exists_of_offersBehind_eq_error {group : Option AgreementGroup} {node : SearchNode}
    {onward : SearchNode → Except SearchError (List Occurrence)}
    (failed : offersBehind group index onward node = .error fault) :
    ∃ next, onward next = .error fault := by
  rw [offersBehind] at failed
  split at failed
  case h_1 next _ => exact ⟨next, failed⟩
  case h_2 => cases failed

/-! ## Runs -/

/-- Whatever breaks off the search from a slot on does so at this slot or at a later one. -/
theorem exists_failsAt_of_offers {remaining : List (Slot × Option AgreementGroup)}
    {node : SearchNode} (rest : query.slotsFrom index = remaining)
    (failed : query.offers positions start remaining index node = .error fault) :
    ∃ number slot, query.slots[number]? = some slot ∧
      query.FailsAt positions number slot fault := by
  induction remaining generalizing index node with
  | nil => cases failed
  | cons first later induction =>
      rcases first with ⟨declared, group⟩
      rcases slotsFrom_eq_cons rest with ⟨standing, belongs, restLater⟩
      rw [offers] at failed
      rcases bind_eq_error_iff.mp failed with failed | ⟨resolved?, -, failed⟩
      · exact ⟨index, declared, standing, .unresolved failed⟩
      · split at failed
        case h_1 => cases failed
        case h_2 resolved =>
            rcases bind_eq_error_iff.mp failed with failed | ⟨placed, -, failed⟩
            · rcases exists_of_mapM_eq_error failed with ⟨placement, -, failed⟩
              rcases bind_eq_error_iff.mp failed with failed | ⟨session?, -, failed⟩
              · rcases extendSession_eq_error failed with
                  ⟨agreed, table, cause, group_eq, table_eq, unresolved, rfl⟩
                exact ⟨index, declared, standing,
                  .undefined (belongs.trans group_eq) table_eq unresolved⟩
              · split at failed
                case h_1 => cases failed
                case h_2 =>
                    rcases exists_of_offersBehind_eq_error failed with ⟨next, failed⟩
                    exact induction restLater failed
            · rcases bind_eq_error_iff.mp failed with failed | ⟨omitted, -, impossible⟩
              · rw [offersOfOmission] at failed
                split at failed
                · rcases exists_of_offersBehind_eq_error failed with ⟨next, failed⟩
                  exact induction restLater failed
                · cases failed
              · cases impossible

/-- A search that fails is broken off at one of the slots. -/
theorem exists_failsAt_of_occurrenceAt?
    (failed : query.occurrenceAt? sentence start = .error fault) :
    ∃ index slot, query.slots[index]? = some slot ∧
      query.FailsAt sentence.positions index slot fault := by
  rw [occurrenceAt?_eq_offers] at failed
  split at failed
  · cases failed
  · exact exists_failsAt_of_offers rfl (map_eq_error_iff.mp failed)

/-- A scan fails in one of its searches or where an occurrence is visited. -/
theorem exists_of_scan_eq_error {α : Type} {visit : Occurrence → Except SearchError (Option α)}
    {fuel place : Nat} (failed : query.scan sentence visit fuel place = .error fault) :
    (∃ start, query.occurrenceAt? sentence start = .error fault) ∨
      ∃ occurrence, visit occurrence = .error fault := by
  induction fuel generalizing place with
  | zero => cases failed
  | succ fuel induction =>
      rw [scan] at failed
      split at failed
      case isFalse => cases failed
      case isTrue =>
          rcases bind_eq_error_iff.mp failed with failed | ⟨answer, -, failed⟩
          · exact Or.inl ⟨place, failed⟩
          · split at failed
            case h_1 => exact induction failed
            case h_2 occurrence =>
                rcases bind_eq_error_iff.mp failed with failed | ⟨result?, -, failed⟩
                · exact Or.inr ⟨occurrence, failed⟩
                · split at failed
                  case h_1 => exact induction failed
                  case h_2 =>
                      rcases bind_eq_error_iff.mp failed with failed | ⟨results, -, impossible⟩
                      · exact induction failed
                      · cases impossible

/-- The occurrences in a sentence cannot be listed only if a search for one of them fails. -/
theorem exists_failsAt_of_occurrences (failed : query.occurrences sentence = .error fault) :
    ∃ index slot, query.slots[index]? = some slot ∧
      query.FailsAt sentence.positions index slot fault := by
  rcases exists_of_scan_eq_error failed with ⟨start, failed⟩ | ⟨occurrence, impossible⟩
  · exact exists_failsAt_of_occurrenceAt? failed
  · cases impossible

end PhraseRules.Query
