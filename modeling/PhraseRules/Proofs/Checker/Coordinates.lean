import PhraseRules.Proofs.Rule.Span
import PhraseRules.Proofs.Rulebook
import PhraseRules.Proofs.Sentence.Analysed
import PhraseRules.Proofs.Sentence.Layout

/-!
# Findings in a text

The stages of an analysis leave the words of a sentence where they are, so an analysed sentence is
laid out in its text as the sentence was that it began with.  What the rules find in it is about a
run of its words, and the offsets of a finding are those of the run in the text.
-/

namespace PhraseRules

/-! ## Stages keep words in their places -/

theorem Position.SharesFrame.placed_eq {before after : Position}
    (shares : before.SharesFrame after) (offset : Nat) :
    after.placed offset = before.placed offset := by
  rw [placed, placed, shares.text_eq, shares.start_eq, shares.spaceBefore_eq]

theorem Checker.map_placed_analyzeSentence (offset : Nat) (checker : Checker)
    (sentence : Sentence) :
    (checker.analyzeSentence sentence).positions.map (·.placed offset) =
      sentence.positions.map (·.placed offset) := by
  apply (Sentence.keepsAnalysis_analyzeSentence checker sentence).map_eq
  exact fun _ _ shares => shares.placed_eq offset

/-! ## Analysed sentences -/

namespace Checker

open Sentence

variable (checker : Checker) (text : String)

/-- A checker analyses sentences of the text, in their order. -/
theorem exists_analyzeText_eq_map :
    ∃ stretches : List Stretch, stretches.Sublist (stretchesOf text) ∧
      checker.analyzeText text = stretches.map fun stretch =>
        (stretch.offset, checker.analyzeSentence stretch.sentence) := by
  rw [analyzeText]
  split
  case h_1 => exact ⟨[], List.nil_sublist _, rfl⟩
  case h_2 sentences divided =>
      rw [split_eq_map divided, List.filter_map, List.map_map]
      exact ⟨_, List.filter_sublist, rfl⟩

/-- An analysed sentence is laid out in the text. -/
theorem laidOut_of_mem_analyzeText {checker : Checker} {text : String} {placed : Nat × Sentence}
    (member : placed ∈ checker.analyzeText text) :
    LaidOut text.toList placed.1 (placed.2.positions.map (·.placed placed.1)) := by
  rcases exists_analyzeText_eq_map checker text with ⟨stretches, sublist, analyzed_eq⟩
  rw [analyzed_eq] at member
  rcases List.mem_map.mp member with ⟨stretch, taken, rfl⟩
  rw [map_placed_analyzeSentence]
  exact laidOut_sentence (sublist.subset taken)

/-- An analysed sentence ends before those behind it begin. -/
theorem pairwise_analyzeText :
    (checker.analyzeText text).Pairwise fun former latter =>
      ∀ position ∈ former.2.positions, former.1 + position.stop ≤ latter.1 := by
  rcases exists_analyzeText_eq_map checker text with ⟨stretches, sublist, analyzed_eq⟩
  rw [analyzed_eq, List.pairwise_map]
  refine ((pairwise_sentences text).sublist sublist).imp fun {former latter} before => ?_
  rw [← map_placed_analyzeSentence former.offset checker] at before
  intro position standing
  rw [← Position.stop_placed]
  exact before _ (List.mem_map_of_mem standing)

end Checker

/-! ## Findings -/

namespace Rulebook

variable {rulebook : Rulebook} {synthesizer : Option Synthesizer} {language : Language}
  {sentence : Sentence} {finding : Finding}

theorem covers_of_mem_analyze
    (member : finding ∈ rulebook.analyze synthesizer language sentence) :
    finding.Covers sentence.positions := by
  rcases List.mem_flatMap.mp (List.mem_mergeSort.mp member) with ⟨rule, -, reported⟩
  rw [findingsOf] at reported
  split at reported
  case h_1 found_eq => exact Rule.covers_of_mem_findings found_eq reported
  case h_2 => cases reported

end Rulebook

namespace Checker

variable {checker : Checker} {text : String} {placed : Nat × Sentence} {finding : Finding}

theorem mem_check_iff :
    finding ∈ checker.check text ↔
      ∃ placed ∈ checker.analyzeText text,
        ∃ found ∈ checker.rulebook.analyze checker.synthesizer checker.language placed.2,
          found.shift placed.1 = finding := by
  rw [check, Rulebook.analyzeAll, List.mem_flatMap]
  exact exists_congr fun placed => and_congr_right fun _ => List.mem_map

/-- The offsets of a finding are those of its words in the text. -/
theorem locates_of_covers (member : placed ∈ checker.analyzeText text)
    (covers : finding.Covers placed.2.positions) :
    finding.start ≤ finding.stop ∧
      placed.1 + finding.stop ≤ text.length ∧
      (∃ position ∈ placed.2.positions, position.stop = finding.stop) ∧
      Spells (placed.2.positions.extract finding.firstWord finding.lastWord)
        (text.toList.extract (placed.1 + finding.start) (placed.1 + finding.stop)) := by
  have laidOut := laidOut_of_mem_analyzeText member
  rcases covers.start_eq with ⟨first, first_eq, start_eq⟩
  rcases covers.stop_eq with ⟨last, last_eq, stop_eq⟩
  rcases laidOut.spells_extract covers.firstWord_lt first_eq last_eq with ⟨start_le, spells⟩
  have standing := List.mem_of_getElem? last_eq
  have stop_le := laidOut.stop_le (List.mem_map_of_mem standing)
  rw [Position.stop_placed, String.length_toList] at stop_le
  rw [← start_eq, ← stop_eq]
  exact ⟨start_le, stop_le, ⟨last, standing, rfl⟩, spells⟩

theorem pairwise_check (checker : Checker) (text : String) :
    (checker.check text).Pairwise fun former latter => former.start ≤ latter.start := by
  rw [check, Rulebook.analyzeAll, List.pairwise_flatMap]
  constructor
  · intro placed _
    rw [List.pairwise_map]
    exact (Rulebook.pairwise_sortByStart _).imp fun le => Nat.add_le_add_right le _
  · refine (pairwise_analyzeText checker text).imp_of_mem ?_
    intro former latter memberFormer memberLatter before shifted memberShifted other memberOther
    rcases List.mem_map.mp memberShifted with ⟨finding, found, rfl⟩
    rcases List.mem_map.mp memberOther with ⟨otherFinding, -, rfl⟩
    rcases locates_of_covers memberFormer (Rulebook.covers_of_mem_analyze found) with
      ⟨start_le, -, ⟨position, standing, stop_eq⟩, -⟩
    have ends := before position standing
    rw [stop_eq] at ends
    change finding.start + former.1 ≤ otherFinding.start + latter.1
    omega

theorem range_of_mem_check (member : finding ∈ checker.check text) :
    finding.start ≤ finding.stop ∧ finding.stop ≤ text.length := by
  rcases mem_check_iff.mp member with ⟨placed, analyzed, found, reported, rfl⟩
  rcases locates_of_covers analyzed (Rulebook.covers_of_mem_analyze reported) with
    ⟨start_le, stop_le, -, -⟩
  exact ⟨Nat.add_le_add_right start_le _, (Nat.add_comm _ _).trans_le stop_le⟩

/-- The findings in a text are reported as they are: no offset in it is lost if a machine word holds
its length. -/
theorem wrapped_of_mem_check (fits : text.length < offsetLimit)
    (member : finding ∈ checker.check text) : finding.wrapped = finding := by
  have stop_le := (range_of_mem_check member).2
  have patternStop_le : finding.patternStop ≤ text.length := by
    rcases mem_check_iff.mp member with ⟨placed, analyzed, found, reported, rfl⟩
    rcases (Rulebook.covers_of_mem_analyze reported).patternStop_eq with ⟨last, standing, stop_eq⟩
    have last_le := (laidOut_of_mem_analyzeText analyzed).stop_le (List.mem_map_of_mem standing)
    rw [Position.stop_placed, String.length_toList, stop_eq] at last_le
    exact (Nat.add_comm _ _).trans_le last_le
  rw [Finding.wrapped, wrapOffset_of_lt (stop_le.trans_lt fits),
    wrapOffset_of_lt (patternStop_le.trans_lt fits)]

/--
The findings in a text come in the order in which they start, and lie within the text.  Each is what
the rules find in an analysed sentence, moved to where the sentence begins; it is about a run of the
words of the sentence, and the characters that it marks in the text spell these words, separated by
white space just where a word asks for it.
-/
theorem check_locates_findings (checker : Checker) (text : String) :
    ((checker.check text).Pairwise fun former latter => former.start ≤ latter.start) ∧
      ∀ finding ∈ checker.check text,
        finding.start ≤ finding.stop ∧ finding.stop ≤ text.length ∧
        ∃ offset sentence, (offset, sentence) ∈ checker.analyzeText text ∧
          (∃ found ∈ checker.rulebook.analyze checker.synthesizer checker.language sentence,
            finding = found.shift offset) ∧
          finding.firstWord < finding.lastWord ∧ finding.lastWord ≤ sentence.length ∧
          Spells (sentence.positions.extract finding.firstWord finding.lastWord)
            (text.toList.extract finding.start finding.stop) := by
  refine ⟨pairwise_check checker text, fun finding member => ?_⟩
  rcases range_of_mem_check member with ⟨start_le, stop_le⟩
  rcases mem_check_iff.mp member with ⟨⟨offset, sentence⟩, analyzed, found, reported, rfl⟩
  have covers := Rulebook.covers_of_mem_analyze reported
  rcases locates_of_covers analyzed covers with ⟨-, -, -, spells⟩
  rw [Nat.add_comm offset, Nat.add_comm offset] at spells
  exact ⟨start_le, stop_le, offset, sentence, analyzed, ⟨found, reported, rfl⟩,
    covers.firstWord_lt, covers.lastWord_le, spells⟩

/-- A repeated article is found in the second sentence of a text. -/
theorem check_locates_findings_of_repeated_article :
    ∃ rule,
      { RuleSpec.named "DUP" with
          slots := [{ SlotSpec.word "la" with caseSensitive := true },
            { SlotSpec.word "la" with caseSensitive := true }] }.compile = .ok rule ∧
      let checker : Checker := ⟨.plain "es" "Español", none, [], ⟨[rule]⟩, 200⟩
      checker.check "No. la  la" = [⟨"DUP", 4, 10, 1, 3, 4, 10, "", "", []⟩] ∧
        ∃ offset sentence, (offset, sentence) ∈ checker.analyzeText "No. la  la" ∧
          Spells (sentence.positions.extract 1 3) "la  la".toList := by
  apply Exists.intro
  refine ⟨?_, ?_⟩
  · simp only [RuleSpec.compile, RuleSpec.named, RuleSpec.templates, List.flatMap_cons,
      List.flatMap_nil, Rule.ofText_empty]
    rfl
  generalize rule_eq : Rule.mk _ _ _ _ _ _ _ _ _ _ _ = rule
  intro checker
  -- the analysis of the text does not depend on the rule
  have analyzed : Checker.analyzeText ⟨.plain "es" "Español", none, [], .empty, 200⟩ "No. la  la" =
      [(0, ⟨[.opening, .ofWord "No" 0, { Position.ofWord "." 2 with sentenceEnd := true }]⟩),
        (4, ⟨[.opening, .ofWord "la" 0, { Position.ofWord "la" 4 with
          spaceBefore := true, sentenceEnd := true, paragraphEnd := true }]⟩)] := by
    decide +kernel
  have found : checker.check "No. la  la" = [⟨"DUP", 4, 10, 1, 3, 4, 10, "", "", []⟩] := by
    change checker.rulebook.analyzeAll _ _
      (Checker.analyzeText ⟨.plain "es" "Español", none, [], .empty, 200⟩ "No. la  la") = _
    rw [analyzed]
    subst rule_eq
    simp only [checker, Rulebook.analyzeAll, Rulebook.analyze, Rulebook.enabledRules,
      Rulebook.findingsOf, List.flatMap_cons, List.flatMap_nil, List.filter_cons_of_pos,
      List.filter_nil, List.append_nil, Rule.findings, Rule.searchFindings, Rule.exempted,
      Rule.finding, Rule.ofText_empty, Query.occurrences, Sentence.length, List.length_cons,
      List.length_nil, Nat.zero_add, Query.scan, Query.occurrenceAt?_eq_offers]
    decide +kernel
  rcases (check_locates_findings checker "No. la  la").2 _ (found ▸ List.mem_cons_self) with
    ⟨-, -, offset, sentence, analyzed, -, -, -, spells⟩
  exact ⟨found, offset, sentence, analyzed, spells⟩

end Checker

end PhraseRules
