import PhraseRules.Proofs.Rule.Findings
import PhraseRules.Proofs.Search.Extent

/-!
# The words of a finding

A finding is about a run of words of its sentence: those between the first and the last marked one,
or all of the occurrence.  Its offsets are those at which the run begins and ends.
-/

namespace PhraseRules

/-- The finding is about a run of the positions, and has its offsets.  The whole occurrence ends
with one of the positions too. -/
structure Finding.Covers (finding : Finding) (positions : List Position) : Prop where
  firstWord_lt : finding.firstWord < finding.lastWord
  lastWord_le : finding.lastWord ≤ positions.length
  start_eq : ∃ first, positions[finding.firstWord]? = some first ∧ first.start = finding.start
  stop_eq : ∃ last, positions[finding.lastWord - 1]? = some last ∧ last.stop = finding.stop
  patternStop_eq : ∃ last ∈ positions, last.stop = finding.patternStop

namespace Rule

variable {rule : Rule} {sentence : Sentence} {synthesizer : Option Synthesizer}
  {language : Language} {query : Query} {start : Nat} {occurrence : Occurrence} {finding : Finding}

/-- The marked words lie within the occurrence. -/
theorem markedSpan_within (rule : Rule)
    (found : query.occurrenceAt? sentence start = .ok (some occurrence)) :
    (rule.markedSpan occurrence).1 < (rule.markedSpan occurrence).2 ∧
      (rule.markedSpan occurrence).2 ≤ occurrence.stop := by
  have bound_lt : ∀ place ∈ markedPositions rule.slots occurrence.bindings,
      place < occurrence.stop := by
    intro place marked
    rcases List.mem_map.mp marked with ⟨binding, member, rfl⟩
    exact (Query.within_of_occurrenceAt? found (List.mem_filter.mp member).1).2
  rw [markedSpan]
  split
  case h_1 first last min_eq max_eq =>
      have last_mem := (List.max?_eq_some_iff.mp max_eq).1
      have first_le := (List.min?_eq_some_iff.mp min_eq).2 last last_mem
      exact ⟨Nat.lt_succ_of_le first_le, bound_lt last last_mem⟩
  case h_2 =>
      have meets := Query.meets_of_occurrenceAt? found
      exact ⟨meets.start_eq ▸ meets.start_lt_stop, Nat.le_refl _⟩

/-- A report is about the marked words. -/
theorem covers_of_finding (found : query.occurrenceAt? sentence start = .ok (some occurrence))
    (reported : rule.finding synthesizer language sentence occurrence = .ok finding) :
    finding.Covers sentence.positions := by
  rcases markedSpan_within rule found with ⟨first_lt, last_le⟩
  have meets := Query.meets_of_occurrenceAt? found
  have stop_le := meets.stop_le_length
  have last_lt := (Nat.sub_one_lt_of_lt meets.start_lt_stop).trans_le stop_le
  rw [Rule.finding] at reported
  rcases Outcome.bind_eq_ok_iff.mp reported with ⟨message, -, reported⟩
  rcases Outcome.bind_eq_ok_iff.mp reported with ⟨shortMessage, -, reported⟩
  rcases Outcome.bind_eq_ok_iff.mp reported with ⟨suggestions, -, equal⟩
  rcases Except.ok.inj equal with rfl
  have standing {index : Nat} (inside : index < sentence.positions.length) :
      sentence.positions[index]? = some (sentence.positions[index]?.getD default) := by
    rw [List.getElem?_eq_getElem inside, Option.getD_some]
  refine ⟨first_lt, last_le.trans stop_le, ⟨_, standing ?_, rfl⟩, ⟨_, standing ?_, rfl⟩,
    ⟨_, List.mem_of_getElem? (standing last_lt), rfl⟩⟩
  · exact first_lt.trans_le (last_le.trans stop_le)
  · exact (Nat.sub_one_lt_of_lt first_lt).trans_le (last_le.trans stop_le)

/-- What a rule reports is about words of the sentence. -/
theorem covers_of_mem_findings {found : List Finding}
    (reported : rule.findings synthesizer language sentence = .ok found)
    (member : finding ∈ found) : finding.Covers sentence.positions := by
  rcases exists_chosen_of_findings reported with ⟨chosen, reports, -⟩
  rcases Outcome.exists_of_forall₂ reports.flip member with ⟨occurrence, -, taken, reported⟩
  exact covers_of_finding taken reported

end Rule

end PhraseRules
