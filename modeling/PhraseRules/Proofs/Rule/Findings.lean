import PhraseRules.Proofs.Rule.Prefilter
import PhraseRules.Proofs.Search.Scan

/-!
# What a rule reports

In a sentence that is searched a rule reports the leftmost occurrences of its pattern that overlap
no occurrence of an antipattern.  The occurrences of an antipattern that count are those that a scan
for it takes, which are themselves the leftmost ones.
-/

namespace PhraseRules.Rule

variable {rule : Rule} {sentence : Sentence} {synthesizer : Option Synthesizer}
  {language : Language}

/-- Of each antipattern the leftmost occurrences are exempted. -/
theorem exempted_eq_flatten
    (searched : (∃ exempted, rule.exempted synthesizer language sentence = .ok exempted) ∨
      ∀ slots ∈ rule.antipatterns, ∀ start, ∃ answer,
        (rule.query synthesizer language slots).occurrenceAt? sentence start = .ok answer) :
    ∃ spans, rule.exempted synthesizer language sentence = .ok spans.flatten ∧
      List.Forall₂ (fun slots chosen =>
        (rule.query synthesizer language slots).IsLeftmost sentence (fun _ => true) 0 chosen)
          rule.antipatterns spans := by
  obtain ⟨spans, passed⟩ : ∃ spans, rule.antipatterns.mapM (fun slots =>
      (rule.query synthesizer language slots).occurrences sentence) = .ok spans := by
    rcases searched with ⟨exempted, exempted_eq⟩ | searched
    · rcases Outcome.bind_eq_ok_iff.mp exempted_eq with ⟨spans, passed, -⟩
      exact ⟨spans, passed⟩
    · apply Outcome.exists_mapM_eq_ok
      intro slots member
      rcases Query.occurrences_isLeftmost (Or.inr (searched slots member)) with
        ⟨chosen, chosen_eq, -⟩
      exact ⟨chosen, chosen_eq⟩
  refine ⟨spans, by rw [exempted, passed]; rfl, ?_⟩
  refine (Outcome.mapM_eq_ok_iff.mp passed).imp fun slots chosen chosen_eq => ?_
  rcases Query.occurrences_isLeftmost (Or.inl ⟨chosen, chosen_eq⟩) with ⟨_, same, leftmost⟩
  rcases Except.ok.inj (chosen_eq.symm.trans same) with rfl
  exact leftmost

/-- Whether an occurrence overlaps none of the exempted ones. -/
def isFreeOf (exempted : List Occurrence) (occurrence : Occurrence) : Bool :=
  !exempted.any (overlaps occurrence)

theorem isFreeOf_iff {exempted : List Occurrence} {occurrence : Occurrence} :
    isFreeOf exempted occurrence = true ↔
      ∀ other ∈ exempted, other.stop ≤ occurrence.start ∨ occurrence.stop ≤ other.start := by
  simp only [isFreeOf, overlaps, Bool.not_eq_true', List.any_eq_false, Bool.and_eq_true,
    decide_eq_true_eq, not_and_or, Nat.not_lt]

/-- What a scan reports of an occurrence, in terms of those that are free. -/
theorem report_eq (exempted : List Occurrence) (occurrence : Occurrence) :
    (if exempted.any (overlaps occurrence) then .ok none
      else some <$> rule.finding synthesizer language sentence occurrence) =
    if isFreeOf exempted occurrence then
      some <$> rule.finding synthesizer language sentence occurrence
    else (.ok none : Except SearchError (Option Finding)) := by
  rw [isFreeOf]
  cases exempted.any (overlaps occurrence) <;> rfl

/-- Findings are reports of occurrences that were found one behind the other. -/
theorem exists_chosen_of_findings {reports : List Finding}
    (reported : rule.findings synthesizer language sentence = .ok reports) :
    ∃ chosen : List Occurrence,
      List.Forall₂ (fun occurrence finding =>
        (rule.query synthesizer language rule.slots).occurrenceAt? sentence occurrence.start =
            .ok (some occurrence) ∧
          rule.finding synthesizer language sentence occurrence = .ok finding) chosen reports ∧
      chosen.Pairwise fun former latter => former.stop ≤ latter.start := by
  rw [findings] at reported
  split at reported
  case isFalse =>
      rcases Except.ok.inj reported with rfl
      exact ⟨[], .nil, .nil⟩
  case isTrue =>
      rcases Outcome.bind_eq_ok_iff.mp reported with ⟨exempted, -, scanned⟩
      rcases Query.scan_eq_mapM (report_eq exempted) (Nat.le_of_eq (Nat.zero_add _).symm)
          (Or.inl ⟨reports, scanned⟩) with ⟨chosen, scan_eq, leftmost⟩
      have passed := Outcome.mapM_eq_ok_iff.mp (scan_eq.symm.trans scanned)
      exact ⟨chosen, (List.forall₂_and_left chosen reports).mpr ⟨leftmost.found, passed⟩,
        leftmost.ordered⟩

/--
The findings in a sentence that is searched are the reports of the leftmost occurrences of the
pattern that overlap none of the leftmost occurrences of an antipattern; there is only one such
choice of occurrences.  This holds if the rule gives findings, or if at least none of its searches
fails; then only a report can fail.
-/
theorem findings_report_leftmost (passes : rule.mayOccur sentence = true)
    (searched : (∃ found, rule.findings synthesizer language sentence = .ok found) ∨
      ∀ slots ∈ rule.slots :: rule.antipatterns, ∀ start, ∃ answer,
        (rule.query synthesizer language slots).occurrenceAt? sentence start = .ok answer) :
    ∃ spans chosen,
      rule.exempted synthesizer language sentence = .ok spans.flatten ∧
      List.Forall₂ (fun slots found =>
        (rule.query synthesizer language slots).IsLeftmost sentence (fun _ => true) 0 found)
          rule.antipatterns spans ∧
      rule.findings synthesizer language sentence =
        chosen.mapM (rule.finding synthesizer language sentence) ∧
      (rule.query synthesizer language rule.slots).IsLeftmost sentence (isFreeOf spans.flatten) 0
        chosen ∧
      (∀ occurrence ∈ chosen, ∀ other ∈ spans.flatten,
        other.stop ≤ occurrence.start ∨ occurrence.stop ≤ other.start) ∧
      ∀ other, (rule.query synthesizer language rule.slots).IsLeftmost sentence
        (isFreeOf spans.flatten) 0 other → other = chosen := by
  rw [findings, if_pos passes, searchFindings] at searched ⊢
  have searchedAside :
      (∃ exempted, rule.exempted synthesizer language sentence = .ok exempted) ∨
        ∀ slots ∈ rule.antipatterns, ∀ start, ∃ answer,
          (rule.query synthesizer language slots).occurrenceAt? sentence start = .ok answer := by
    rcases searched with ⟨found, found_eq⟩ | searched
    · rcases Outcome.bind_eq_ok_iff.mp found_eq with ⟨exempted, exempted_eq, -⟩
      exact Or.inl ⟨exempted, exempted_eq⟩
    · exact Or.inr fun slots member => searched slots (List.mem_cons_of_mem _ member)
  rcases exempted_eq_flatten searchedAside with ⟨spans, exempted_eq, leftmostAside⟩
  rw [exempted_eq, Outcome.ok_bind] at searched ⊢
  rcases Query.scan_eq_mapM (report_eq spans.flatten) (Nat.le_of_eq (Nat.zero_add _).symm)
      (searched.imp_right fun searched => searched rule.slots List.mem_cons_self) with
    ⟨chosen, scan_eq, leftmost⟩
  refine ⟨spans, chosen, rfl, leftmostAside, scan_eq, leftmost, ?_, fun _ => leftmost.unique⟩
  exact fun occurrence member => isFreeOf_iff.mp (leftmost.allFree occurrence member)

/-- Of two occurrences the first one lies in an exempted phrase, so only the second is reported. -/
theorem findings_report_leftmost_of_exempted_phrase :
    ∃ rule,
      { RuleSpec.named "DE" with
          slots := [{ SlotSpec.word "de" with caseSensitive := true }]
          antipatterns := [[{ SlotSpec.word "de" with caseSensitive := true },
            { SlotSpec.word "que" with caseSensitive := true }]] }.compile = .ok rule ∧
      rule.mayOccur (.ofWords ["de", "que", "y", "de", "eso"]) = true ∧
      ∃ (spans : List (List Occurrence)) (chosen : List Occurrence),
        rule.exempted none (.plain "es" "Español") (.ofWords ["de", "que", "y", "de", "eso"]) =
            .ok spans.flatten ∧
          (rule.query none (.plain "es" "Español") rule.slots).IsLeftmost
              (.ofWords ["de", "que", "y", "de", "eso"]) (isFreeOf spans.flatten) 0 chosen ∧
            chosen.mapM (rule.finding none (.plain "es" "Español")
                (.ofWords ["de", "que", "y", "de", "eso"])) =
              .ok [⟨"DE", 9, 11, 4, 5, 9, 11, "", "", []⟩] := by
  apply Exists.intro
  refine ⟨?_, ?_⟩
  · simp only [RuleSpec.compile, RuleSpec.named, RuleSpec.templates, List.flatMap_cons,
      List.flatMap_nil, ofText_empty]
    rfl
  generalize rule_eq : Rule.mk _ _ _ _ _ _ _ _ _ _ _ = rule
  have passes : rule.mayOccur (.ofWords ["de", "que", "y", "de", "eso"]) = true := by
    subst rule_eq
    decide +kernel
  have found : rule.findings none (.plain "es" "Español")
      (.ofWords ["de", "que", "y", "de", "eso"]) =
        .ok [⟨"DE", 9, 11, 4, 5, 9, 11, "", "", []⟩] := by
    rw [findings, if_pos passes]
    subst rule_eq
    simp only [searchFindings, exempted, finding, ofText_empty, Query.occurrences,
      Sentence.length, Sentence.ofWords, Sentence.positionsOfWords, List.length_cons,
      List.length_nil, Nat.zero_add, Query.scan, Query.occurrenceAt?_eq_offers]
    decide +kernel
  rcases findings_report_leftmost passes (Or.inl ⟨_, found⟩) with
    ⟨spans, chosen, exempted_eq, -, findings_eq, leftmost, -⟩
  exact ⟨passes, spans, chosen, exempted_eq, leftmost, findings_eq.symm.trans found⟩

end PhraseRules.Rule
