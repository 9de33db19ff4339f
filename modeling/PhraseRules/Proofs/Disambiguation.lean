import PhraseRules.Disambiguation
import PhraseRules.Proofs.Rule.Marked
import PhraseRules.Proofs.Search.Scan
import PhraseRules.Proofs.Sentence.Frame

/-!
# What disambiguation changes

An action narrows a position and leaves a line in its history just if it changed anything
(`Position.RecordsChange`).  It changes nothing when it is done again, so a rule does it to the
marked words of what it finds, whatever the order.  From what one rule does to a sentence,
`disambiguate_narrows` tells by induction what a list of rules leaves of it.
-/

namespace PhraseRules

/-- The position is narrowed, and the line stands in its history if anything changed. -/
structure Position.RecordsChange (line : String) (before after : Position) : Prop where
  narrows : before.Narrows after
  history_eq : after.history = before.history ++ if before.Differs after then [line] else []

theorem Position.RecordsChange.refl (line : String) (position : Position) :
    position.RecordsChange line position where
  narrows := .refl position
  history_eq := by rw [if_neg position.not_differs, List.append_nil]

namespace DisambiguationAction

variable {line : String} {position : Position}

/-! ## Actions -/

theorem recordsChange_keepReadings (keeps : Reading → Bool) :
    position.RecordsChange line
      (keepReadings (position.readings.filter keeps) line position) := by
  rw [keepReadings]
  split
  case isTrue => exact .refl line position
  case isFalse changes =>
      obtain ⟨fewer, some⟩ := not_or.mp changes
      have differs : position.Differs
          ({ position with readings := position.readings.filter keeps }.note line) :=
        Or.inl fun equal => fewer (congrArg List.length equal)
      refine ⟨⟨rfl, List.filter_sublist, ?_, id⟩, ?_⟩
      · exact fun _ none => some (List.isEmpty_iff.mpr none)
      · rw [if_pos differs]
        rfl

theorem keepReadings_keepReadings (keeps : Reading → Bool) :
    keepReadings
        ((keepReadings (position.readings.filter keeps) line position).readings.filter keeps) line
        (keepReadings (position.readings.filter keeps) line position) =
      keepReadings (position.readings.filter keeps) line position := by
  by_cases keepsAllOrNone : (position.readings.filter keeps).length = position.readings.length ∨
      (position.readings.filter keeps).isEmpty
  · have same : keepReadings (position.readings.filter keeps) line position = position :=
      if_pos keepsAllOrNone
    rw [same, same]
  · have narrowed : keepReadings (position.readings.filter keeps) line position =
        { position with readings := position.readings.filter keeps }.note line :=
      if_neg keepsAllOrNone
    rw [narrowed]
    exact if_pos (Or.inl (congrArg List.length (by simp [Position.note])))

variable (action : DisambiguationAction)

theorem recordsChange_applyTo : position.RecordsChange line (action.applyTo line position) := by
  cases action with
  | filter tags => exact recordsChange_keepReadings _
  | remove tags => exact recordsChange_keepReadings _
  | immunize =>
      rw [applyTo]
      split
      case isTrue => exact .refl line position
      case isFalse unprotected =>
          have differs : position.Differs (position.immunize.note line) :=
            Or.inr fun equal => unprotected equal.symm
          refine ⟨⟨rfl, .refl _, id, fun _ => rfl⟩, ?_⟩
          rw [if_pos differs]
          rfl

/-- An action that is done again changes nothing. -/
theorem applyTo_applyTo :
    action.applyTo line (action.applyTo line position) = action.applyTo line position := by
  cases action with
  | filter tags => exact keepReadings_keepReadings _
  | remove tags => exact keepReadings_keepReadings _
  | immunize =>
      cases immune : position.immune with
      | true => simp [applyTo, immune]
      | false => simp [applyTo, immune, Position.immunize, Position.note]

end DisambiguationAction

/-! ## One rule -/

/-- What is done to elements at several places is done to each of them, if it has no effect to do it
again. -/
theorem getElem?_foldl_modify {α : Type} {change : α → α}
    (idempotent : ∀ element, change (change element) = change element) (places : List Nat)
    (elements : List α) (place : Nat) :
    (places.foldl (fun elements place => elements.modify place change) elements)[place]? =
      if place ∈ places then elements[place]?.map change else elements[place]? := by
  induction places generalizing elements with
  | nil => rfl
  | cons first later induction =>
      rw [List.foldl_cons, induction, List.getElem?_modify]
      by_cases here : first = place
      · subst here
        cases elements[first]? <;> simp [idempotent]
      · simp [here, Ne.symm here]

theorem length_foldl_modify {α : Type} (change : α → α) (places : List Nat) (elements : List α) :
    (places.foldl (fun elements place => elements.modify place change) elements).length =
      elements.length := by
  induction places generalizing elements with
  | nil => rfl
  | cons first later induction => rw [List.foldl_cons, induction, List.length_modify]

namespace DisambiguationRule

variable {rule : DisambiguationRule} {language : Language} {sentence result : Sentence}

/-- The words that a slot of the rule is filled with are marked. -/
def Marks (rule : DisambiguationRule) (index : Nat) : Prop :=
  ∃ slot, rule.slots[index]? = some slot ∧
    (slot.marked = some true ∨
      slot.marked = none ∧ ∀ other ∈ rule.slots, other.marked ≠ some true)

theorem mem_markedPositions {bindings : List Binding} {place : Nat}
    (marked : place ∈ markedPositions rule.slots bindings) :
    ∃ binding ∈ bindings, binding.position = place ∧ rule.Marks binding.slot := by
  rcases mem_markedPositions_iff.mp marked with
    ⟨binding, bound, position_eq, slot, standing, marks | ⟨notOut, noOther⟩⟩
  · exact ⟨binding, bound, position_eq, slot, standing, Or.inl marks⟩
  · refine ⟨binding, bound, position_eq, slot, standing, Or.inr ⟨?_, noOther⟩⟩
    have notMarked := noOther slot (List.mem_of_getElem? standing)
    cases marked_eq : slot.marked with
    | none => rfl
    | some answer => cases answer <;> contradiction

/-- A rule does its action to the marked words of the leftmost occurrences of its pattern. -/
theorem exists_of_apply (applied : rule.apply language sentence = .ok result) :
    result.length = sentence.length ∧
    ∃ found, (rule.query language).IsLeftmost sentence (fun _ => true) 0 found ∧
      ∀ place, result.positions[place]? =
        if place ∈ found.flatMap (fun occurrence => markedPositions rule.slots occurrence.bindings)
        then sentence.positions[place]?.map (rule.action.applyTo rule.historyLine)
        else sentence.positions[place]? := by
  rcases Outcome.bind_eq_ok_iff.mp applied with ⟨found, found_eq, equal⟩
  rcases Query.occurrences_isLeftmost (Or.inl ⟨found, found_eq⟩) with ⟨chosen, same, leftmost⟩
  rcases Except.ok.inj (found_eq.symm.trans same) with rfl
  cases equal
  refine ⟨length_foldl_modify _ _ _, found, leftmost, getElem?_foldl_modify ?_ _ _⟩
  exact fun _ => rule.action.applyTo_applyTo

theorem recordsChange_of_apply (applied : rule.apply language sentence = .ok result) {place : Nat}
    {before : Position} (standing : sentence.positions[place]? = some before) :
    ∃ after, result.positions[place]? = some after ∧
      before.RecordsChange rule.historyLine after := by
  rcases exists_of_apply applied with ⟨-, found, -, result_eq⟩
  rw [result_eq, standing]
  split
  case isTrue => exact ⟨_, rfl, rule.action.recordsChange_applyTo⟩
  case isFalse => exact ⟨before, rfl, .refl _ before⟩

end DisambiguationRule

/-! ## Rules in order -/

/-- A rule with the sentence before it and the one that it leaves. -/
structure DisambiguationStage where
  rule : DisambiguationRule
  before : Sentence
  after : Sentence

namespace DisambiguationStage

/-- The rule changes the readings or the protection of the word at the place. -/
def changes (stage : DisambiguationStage) (place : Nat) : Bool :=
  match stage.before.positions[place]?, stage.after.positions[place]? with
  | some before, some after => decide (before.Differs after)
  | _, _ => false

/-- The positions that the rule changes are bound to marked slots in the leftmost occurrences of its
pattern. -/
def ChangesOnlyMarked (language : Language) (stage : DisambiguationStage) : Prop :=
  ∃ found,
    (stage.rule.query language).IsLeftmost stage.before (fun _ => true) 0 found ∧
      ∀ place, stage.after.positions[place]? ≠ stage.before.positions[place]? →
        ∃ occurrence ∈ found, ∃ binding ∈ occurrence.bindings,
          binding.position = place ∧ stage.rule.Marks binding.slot

/-- The stages lead from one sentence to another. -/
inductive Leads (language : Language) :
    Sentence → List DisambiguationStage → Sentence → Prop where
  | done (sentence : Sentence) : Leads language sentence [] sentence
  | apply {rule : DisambiguationRule} {before after result : Sentence}
      {later : List DisambiguationStage} (applied : rule.apply language before = .ok after)
      (onward : Leads language after later result) :
      Leads language before (⟨rule, before, after⟩ :: later) result

variable {language : Language} {sentence result : Sentence} {stages : List DisambiguationStage}

theorem changesOnlyMarked {rule : DisambiguationRule} {before after : Sentence}
    (applied : rule.apply language before = .ok after) :
    ChangesOnlyMarked language ⟨rule, before, after⟩ := by
  rcases DisambiguationRule.exists_of_apply applied with
    ⟨-, found, leftmost, after_eq⟩
  refine ⟨found, leftmost, fun place changed => ?_⟩
  rw [after_eq] at changed
  split at changed
  case isTrue marked =>
      rcases List.mem_flatMap.mp marked with ⟨occurrence, member, marked⟩
      exact ⟨occurrence, member, DisambiguationRule.mem_markedPositions marked⟩
  case isFalse => exact absurd rfl changed

theorem Leads.changesOnlyMarked (leads : Leads language sentence stages result) :
    ∀ stage ∈ stages, stage.ChangesOnlyMarked language := by
  induction leads with
  | done => exact fun _ member => by cases member
  | apply applied onward induction =>
      exact List.forall_mem_cons.mpr ⟨DisambiguationStage.changesOnlyMarked applied, induction⟩

/-- Every position is narrowed, and its history tells which rules changed it. -/
theorem Leads.narrows (leads : Leads language sentence stages result) {place : Nat}
    {before : Position} (standing : sentence.positions[place]? = some before) :
    ∃ after, result.positions[place]? = some after ∧ before.Narrows after ∧
      after.history =
        before.history ++ (stages.filter (·.changes place)).map (·.rule.historyLine) := by
  induction leads generalizing before with
  | done => exact ⟨before, standing, .refl before, (List.append_nil _).symm⟩
  | @apply rule sentence next result later applied onward induction =>
      rcases DisambiguationRule.recordsChange_of_apply applied standing with
        ⟨between, standingBetween, recorded⟩
      rcases induction standingBetween with ⟨after, standingAfter, narrows, history_eq⟩
      refine ⟨after, standingAfter, recorded.narrows.trans narrows, ?_⟩
      have changes_eq : changes ⟨rule, sentence, next⟩ place = decide (before.Differs between) := by
        rw [changes, standing, standingBetween]
      rw [history_eq, recorded.history_eq, List.filter_cons, changes_eq]
      by_cases differs : before.Differs between
      · simp [differs]
      · simp [differs]

theorem Leads.length_eq (leads : Leads language sentence stages result) :
    result.length = sentence.length := by
  induction leads with
  | done => rfl
  | apply applied onward induction =>
      exact induction.trans (DisambiguationRule.exists_of_apply applied).1

end DisambiguationStage

open DisambiguationStage

theorem exists_leads_of_disambiguate {rules : List DisambiguationRule} {language : Language}
    {sentence result : Sentence}
    (disambiguated : disambiguate rules language sentence = .ok result) :
    ∃ stages, stages.map (·.rule) = rules ∧ Leads language sentence stages result := by
  induction rules generalizing sentence with
  | nil =>
      cases disambiguated
      exact ⟨[], rfl, .done _⟩
  | cons rule later induction =>
      rcases Outcome.bind_eq_ok_iff.mp disambiguated with ⟨between, applied, disambiguated⟩
      rcases induction disambiguated with ⟨stages, rules_eq, leads⟩
      exact ⟨⟨rule, sentence, between⟩ :: stages, congrArg (rule :: ·) rules_eq,
        .apply applied leads⟩

/--
Rules that are applied in order leave a sentence with the same words, whose readings are some of
those before, but never none, and which stay protected if they were.  Nothing else changes but the
histories, and these tell in order which rules changed a word.  Each rule changes only marked words
of the leftmost occurrences of its pattern.
-/
theorem disambiguate_narrows {rules : List DisambiguationRule} {language : Language}
    {sentence result : Sentence}
    (disambiguated : disambiguate rules language sentence = .ok result) :
    result.length = sentence.length ∧
    ∃ stages, stages.map (·.rule) = rules ∧ Leads language sentence stages result ∧
      (∀ stage ∈ stages, stage.ChangesOnlyMarked language) ∧
      ∀ (place : Nat) (before : Position), sentence.positions[place]? = some before →
        ∃ after, result.positions[place]? = some after ∧ before.Narrows after ∧
          after.history = before.history ++ (stages.filter (·.changes place)).map fun stage =>
            stage.rule.id ++ ": " ++ stage.rule.action.label := by
  rcases exists_leads_of_disambiguate disambiguated with ⟨stages, rules_eq, leads⟩
  have line_eq (stage : DisambiguationStage) :
      stage.rule.historyLine = stage.rule.id ++ ": " ++ stage.rule.action.label :=
    rfl
  refine ⟨leads.length_eq, stages, rules_eq, leads, leads.changesOnlyMarked, ?_⟩
  intro place before standing
  simpa only [line_eq] using leads.narrows standing

/-- One rule protects an article, the other drops a reading of the noun behind it. -/
theorem disambiguate_narrows_of_noun :
    ∃ protecting dropping,
      DisambiguationRule.compile "PROTECT" [.word "la"] .immunize none = .ok protecting ∧
      DisambiguationRule.compile "NOUN" [{ SlotSpec.word "la" with marked := some false },
        .word "casa"] (.remove ⟨"V", true, true, .oneOf ["V"]⟩) none = .ok dropping ∧
      let article := (Position.ofWord "la" 0).addReading (.tagged "la" "el" "D")
      let noun := ((Position.ofWord "casa" 3).addReading (.tagged "casa" "casa" "N")).addReading
        (.tagged "casa" "casar" "V")
      disambiguate [protecting, dropping] (.plain "es" "Español") ⟨[.opening, article, noun]⟩ =
          .ok ⟨[.opening, article.immunize.note "PROTECT: immunize",
            { noun with readings := [.tagged "casa" "casa" "N"] }.note "NOUN: remove V"]⟩ ∧
        ∃ stages : List DisambiguationStage, stages.map (·.rule) = [protecting, dropping] ∧
          (∀ stage ∈ stages, stage.ChangesOnlyMarked (.plain "es" "Español")) ∧
            ["NOUN: remove V"] = (stages.filter (·.changes 2)).map fun stage =>
              stage.rule.id ++ ": " ++ stage.rule.action.label := by
  refine ⟨_, _, rfl, rfl, ?_⟩
  intro article noun
  refine (and_iff_left_of_imp fun disambiguated => ?_).mpr ?_
  · rcases disambiguate_narrows disambiguated with
      ⟨-, stages, rules_eq, -, changesOnlyMarked, narrows⟩
    rcases narrows 2 noun rfl with ⟨after, standing, -, history_eq⟩
    cases standing
    exact ⟨stages, rules_eq, changesOnlyMarked, history_eq⟩
  · refine Outcome.bind_eq_ok_iff.mpr
      ⟨⟨[.opening, article.immunize.note "PROTECT: immunize", noun]⟩, ?_,
        Outcome.bind_eq_ok_iff.mpr ⟨_, ?_, rfl⟩⟩
    all_goals
      simp only [DisambiguationRule.apply, Query.occurrences, Sentence.length, List.length_cons,
        List.length_nil, Nat.zero_add, Query.scan, Query.occurrenceAt?_eq_offers]
      decide +kernel

end PhraseRules
