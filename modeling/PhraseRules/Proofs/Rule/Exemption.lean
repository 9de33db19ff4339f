import PhraseRules.Proofs.Rule.Findings

/-!
# What antipatterns exempt

A finding overlaps none of the occurrences that a scan for an antipattern takes.  The scan passes
over occurrences that begin within one that it has taken, and of these nothing is heard:
`Rule.overlaps_none_or_begins_within` says that they are the only ones that a finding can overlap,
and that it can do so only where they begin before it.
-/

namespace PhraseRules.Rule

variable {rule : Rule} {sentence : Sentence} {synthesizer : Option Synthesizer}
  {language : Language}

/-- The occurrences have no position in common. -/
def AreDisjoint (occurrence other : Occurrence) : Prop :=
  other.stop ≤ occurrence.start ∨ occurrence.stop ≤ other.start
deriving Decidable

/--
What begins at `start` begins within an occurrence that the query finds farther to the left and that
stops before `place`.  A scan that takes that one passes over it.
-/
def IsPassedOver (query : Query) (sentence : Sentence) (place start : Nat) : Prop :=
  ∃ former, query.occurrenceAt? sentence former.start = .ok (some former) ∧
    former.start < start ∧ start < former.stop ∧ former.stop ≤ place

/-- What overlaps none of the leftmost occurrences overlaps only those that are passed over. -/
theorem areDisjoint_or_isPassedOver {query : Query} {chosen : List Occurrence}
    (leftmost : query.IsLeftmost sentence (fun _ => true) 0 chosen) {occurrence phrase : Occurrence}
    (apart : ∀ other ∈ chosen, AreDisjoint occurrence other) {start : Nat}
    (found : query.occurrenceAt? sentence start = .ok (some phrase)) :
    AreDisjoint occurrence phrase ∨ IsPassedOver query sentence occurrence.start start := by
  rcases leftmost.exists_covers found rfl (Nat.zero_le start) with
    ⟨former, member, start_le, start_lt⟩
  have start_eq : phrase.start = start := (Query.meets_of_occurrenceAt? found).start_eq
  have foundFormer := leftmost.found former member
  rcases Nat.eq_or_lt_of_le start_le with rfl | less
  · -- at one place the query finds one occurrence
    rcases Option.some.inj (Except.ok.inj (found.symm.trans foundFormer)) with rfl
    exact Or.inl (apart phrase member)
  · rcases apart former member with before | behind
    · exact Or.inr ⟨former, foundFormer, less, start_lt, before⟩
    · exact Or.inl (Or.inr (by omega))

/--
The findings of a rule report occurrences of its pattern.  Whatever an antipattern finds at any
place of the sentence, such an occurrence overlaps it only if it begins within another occurrence of
the antipattern that stops before the reported one begins.  So a reported occurrence overlaps
nothing that begins in it, and nothing at all of antipatterns whose occurrences do not overlap each
other.
-/
theorem overlaps_none_or_begins_within {found : List Finding}
    (reported : rule.findings synthesizer language sentence = .ok found) :
    ∃ chosen : List Occurrence,
      chosen.mapM (rule.finding synthesizer language sentence) = .ok found ∧
      (∀ occurrence ∈ chosen,
        (rule.query synthesizer language rule.slots).occurrenceAt? sentence occurrence.start =
          .ok (some occurrence)) ∧
      ∀ occurrence ∈ chosen, ∀ slots ∈ rule.antipatterns, ∀ start phrase,
        (rule.query synthesizer language slots).occurrenceAt? sentence start =
            .ok (some phrase) →
          AreDisjoint occurrence phrase ∨
            IsPassedOver (rule.query synthesizer language slots) sentence occurrence.start
              start := by
  rw [findings] at reported
  split at reported
  case isFalse =>
      rcases Except.ok.inj reported with rfl
      refine ⟨[], rfl, ?_, ?_⟩
      · exact fun _ impossible => absurd impossible List.not_mem_nil
      · exact fun _ impossible => absurd impossible List.not_mem_nil
  case isTrue =>
      rw [searchFindings] at reported
      rcases Outcome.bind_eq_ok_iff.mp reported with ⟨exempted, exempted_eq, scanned⟩
      rcases exempted_eq_flatten (Or.inl ⟨exempted, exempted_eq⟩) with
        ⟨spans, spans_eq, leftmostAside⟩
      rcases Except.ok.inj (exempted_eq.symm.trans spans_eq) with rfl
      rcases Query.scan_eq_mapM (report_eq spans.flatten) (Nat.le_of_eq (Nat.zero_add _).symm)
          (Or.inl ⟨found, scanned⟩) with ⟨chosen, scan_eq, leftmost⟩
      refine ⟨chosen, scan_eq.symm.trans scanned, leftmost.found, ?_⟩
      intro occurrence member slots antipattern start phrase foundPhrase
      rcases Outcome.exists_of_forall₂ leftmostAside antipattern with
        ⟨taken, takenMember, leftmostTaken⟩
      refine areDisjoint_or_isPassedOver leftmostTaken (fun other otherMember => ?_) foundPhrase
      exact isFreeOf_iff.mp (leftmost.allFree occurrence member) other
        (List.mem_flatten_of_mem takenMember otherMember)

/-- The first of two phrases is exempted, and the second one is reported. -/
theorem overlaps_none_or_begins_within_of_exempted_phrase :
    ∃ rule,
      { RuleSpec.named "AB" with
          slots := [{ SlotSpec.word "a" with caseSensitive := true },
            { SlotSpec.word "b" with caseSensitive := true }]
          antipatterns := [[{ SlotSpec.word "a" with caseSensitive := true },
            { SlotSpec.word "a" with caseSensitive := true }]] }.compile = .ok rule ∧
      rule.findings none (.plain "es" "Español") (.ofWords ["a", "a", "b", "a", "b"]) =
        .ok [⟨"AB", 6, 9, 4, 6, 6, 9, "", "", []⟩] ∧
      ∃ chosen : List Occurrence, chosen ≠ [] ∧
        ∀ occurrence ∈ chosen, ∀ slots ∈ rule.antipatterns, ∀ start phrase,
          (rule.query none (.plain "es" "Español") slots).occurrenceAt?
              (.ofWords ["a", "a", "b", "a", "b"]) start = .ok (some phrase) →
            AreDisjoint occurrence phrase ∨
              IsPassedOver (rule.query none (.plain "es" "Español") slots)
                (.ofWords ["a", "a", "b", "a", "b"]) occurrence.start start := by
  apply Exists.intro
  refine ⟨?_, ?_⟩
  · simp only [RuleSpec.compile, RuleSpec.named, RuleSpec.templates, List.flatMap_cons,
      List.flatMap_nil, ofText_empty]
    rfl
  generalize rule_eq : Rule.mk _ _ _ _ _ _ _ _ _ _ _ = rule
  have passes : rule.mayOccur (.ofWords ["a", "a", "b", "a", "b"]) = true := by
    subst rule_eq
    decide +kernel
  have found : rule.findings none (.plain "es" "Español")
      (.ofWords ["a", "a", "b", "a", "b"]) =
        .ok [⟨"AB", 6, 9, 4, 6, 6, 9, "", "", []⟩] := by
    rw [findings, if_pos passes]
    subst rule_eq
    simp only [searchFindings, exempted, finding, ofText_empty, Query.occurrences,
      Sentence.length, Sentence.ofWords, Sentence.positionsOfWords, List.length_cons,
      List.length_nil, Nat.zero_add, Query.scan, Query.occurrenceAt?_eq_offers]
    decide +kernel
  rcases overlaps_none_or_begins_within found with ⟨chosen, reported, -, apart⟩
  refine ⟨found, chosen, ?_, apart⟩
  rintro rfl
  cases reported

/-- A phrase that begins within an exempted one is passed over, and what it overlaps is reported. -/
theorem overlaps_phrase_begun_within :
    ∃ rule,
      { RuleSpec.named "AB" with
          slots := [{ SlotSpec.word "a" with caseSensitive := true },
            { SlotSpec.word "b" with caseSensitive := true }]
          antipatterns := [[{ SlotSpec.word "a" with caseSensitive := true },
            { SlotSpec.word "a" with caseSensitive := true }]] }.compile = .ok rule ∧
      rule.findings none (.plain "es" "Español") (.ofWords ["a", "a", "a", "b"]) =
        .ok [⟨"AB", 4, 7, 3, 5, 4, 7, "", "", []⟩] ∧
      (rule.query none (.plain "es" "Español") rule.slots).occurrenceAt?
          (.ofWords ["a", "a", "a", "b"]) 3 = .ok (some ⟨3, 5, [⟨0, 3, [0]⟩, ⟨1, 4, [0]⟩]⟩) ∧
      ∃ slots ∈ rule.antipatterns,
        (rule.query none (.plain "es" "Español") slots).occurrenceAt?
            (.ofWords ["a", "a", "a", "b"]) 2 = .ok (some ⟨2, 4, [⟨0, 2, [0]⟩, ⟨1, 3, [0]⟩]⟩) ∧
          ¬AreDisjoint ⟨3, 5, [⟨0, 3, [0]⟩, ⟨1, 4, [0]⟩]⟩ ⟨2, 4, [⟨0, 2, [0]⟩, ⟨1, 3, [0]⟩]⟩ := by
  apply Exists.intro
  refine ⟨?_, ?_⟩
  · simp only [RuleSpec.compile, RuleSpec.named, RuleSpec.templates, List.flatMap_cons,
      List.flatMap_nil, ofText_empty]
    rfl
  refine ⟨?_, ?_, _, List.mem_singleton_self _, ?_, by decide⟩
  · rw [findings, if_pos (by decide +kernel)]
    simp only [searchFindings, exempted, finding, ofText_empty, Query.occurrences,
      Sentence.length, Sentence.ofWords, Sentence.positionsOfWords, List.length_cons,
      List.length_nil, Nat.zero_add, Query.scan, Query.occurrenceAt?_eq_offers]
    decide +kernel
  all_goals
    rw [Query.occurrenceAt?_eq_offers]
    decide +kernel

end PhraseRules.Rule
