import Mathlib.Data.List.Induction
import PhraseRules.Proofs.Checker.Coordinates

/-!
# Corrected texts

Of the findings in a text those are corrected that no earlier one is in the way of.  They follow
each other in the text, so when they are written into it from the last to the first, none of them
moves the characters that another one replaces.
-/

namespace PhraseRules.Checker

open PhraseRules.Text

variable {finding : Finding} {findings accepted : List Finding} {length place : Nat}
  {chars : List Char}

/-! ## Findings that are accepted -/

/-- Of the findings so far those are accepted that have suggestions and that no other accepted one
is in the way of. -/
structure Accepts (length : Nat) (findings accepted : List Finding) : Prop where
  sublist : accepted.Sublist findings
  suggests : ∀ finding ∈ accepted, finding.suggestions ≠ []
  apart : accepted.Pairwise fun former latter => conflicts former latter = false
  settled : ∀ finding ∈ findings, finding.suggestions ≠ [] → finding.stop ≤ length →
    ∃ other ∈ accepted, conflicts other finding = true ∧ other.start ≤ finding.start

theorem conflicts_self (finding : Finding) : conflicts finding finding = true := by
  rw [conflicts, beq_self_eq_true, Bool.or_true]

/-- A further finding is left out, or accepted if it may be. -/
theorem Accepts.step (accepts : Accepts length findings accepted)
    (latest : ∀ other ∈ findings, other.start ≤ finding.start) :
    Accepts length (findings ++ [finding])
      (if finding.suggestions.isEmpty || length < finding.stop ||
          accepted.any (conflicts · finding) then accepted
        else accepted ++ [finding]) := by
  split
  case isTrue leftOut =>
      refine ⟨accepts.sublist.trans (List.sublist_append_left _ _), accepts.suggests,
        accepts.apart, fun other member suggests inside => ?_⟩
      rcases List.mem_append.mp member with earlier | member
      · exact accepts.settled other earlier suggests inside
      · cases List.mem_singleton.mp member
        -- as it could be corrected, something is in its way
        rw [Bool.or_eq_true, Bool.or_eq_true, List.isEmpty_iff, decide_eq_true_iff] at leftOut
        rcases leftOut with (none | beyond) | conflicting
        · exact absurd none suggests
        · exact absurd inside (Nat.not_le_of_lt beyond)
        · rcases List.any_eq_true.mp conflicting with ⟨other, taken, conflicting⟩
          exact ⟨other, taken, conflicting, latest other (accepts.sublist.subset taken)⟩
  case isFalse free =>
      rw [Bool.or_eq_true, Bool.or_eq_true, not_or, not_or, List.isEmpty_iff] at free
      rcases free with ⟨⟨suggests, -⟩, noneInWay⟩
      refine ⟨accepts.sublist.append_right [finding], ?_, ?_, ?_⟩
      · exact List.forall_mem_append.mpr ⟨accepts.suggests, List.forall_mem_singleton.mpr suggests⟩
      · refine List.pairwise_append.mpr ⟨accepts.apart, List.pairwise_singleton _ _, ?_⟩
        intro other taken latter isFinding
        cases List.mem_singleton.mp isFinding
        exact Bool.eq_false_iff.mpr fun conflicting =>
          noneInWay (List.any_eq_true.mpr ⟨other, taken, conflicting⟩)
      · intro other member suggests inside
        rcases List.mem_append.mp member with earlier | member
        · rcases accepts.settled other earlier suggests inside with ⟨taken, isTaken, settles⟩
          exact ⟨taken, List.mem_append_left _ isTaken, settles⟩
        · cases List.mem_singleton.mp member
          exact ⟨finding, List.mem_append_right _ List.mem_cons_self, conflicts_self finding,
            Nat.le_refl _⟩

theorem accepts_accept
    (sorted : findings.Pairwise fun former latter => former.start ≤ latter.start) :
    Accepts length findings (accept length findings) := by
  induction findings using List.reverseRecOn with
  | nil => exact ⟨.slnil, fun _ absent => (nomatch absent), .nil, fun _ absent => (nomatch absent)⟩
  | append_singleton findings finding induction =>
      rcases List.pairwise_append.mp sorted with ⟨sorted, -, latest⟩
      have step := (induction sorted).step
        fun other member => latest other member finding List.mem_cons_self
      rw [accept, List.foldl_append]
      exact step

/-- Findings that are not in each other's way follow each other. -/
theorem start_lt_and_stop_le_of_not_conflicts {former latter : Finding}
    (le_start : former.start ≤ latter.start) (forward : latter.start ≤ latter.stop)
    (apart : conflicts former latter = false) :
    former.start < latter.start ∧ former.stop ≤ latter.start := by
  rw [conflicts, Finding.overlaps, Bool.or_eq_false_iff, beq_eq_false_iff_ne,
    Bool.and_eq_false_iff, decide_eq_false_iff_not, decide_eq_false_iff_not] at apart
  omega

/-! ## Findings that are written into a text -/

/-- The findings follow each other from `place` on in a text of `length` characters. -/
structure InOrder (length place : Nat) (findings : List Finding) : Prop where
  le_start : ∀ finding ∈ findings, place ≤ finding.start
  forward : ∀ finding ∈ findings, finding.start ≤ finding.stop
  stop_le : ∀ finding ∈ findings, finding.stop ≤ length
  pairwise : findings.Pairwise fun former latter => former.stop ≤ latter.start

theorem InOrder.later (inOrder : InOrder length place (finding :: findings)) :
    InOrder length finding.stop findings where
  le_start := (List.pairwise_cons.mp inOrder.pairwise).1
  forward := fun other member => inOrder.forward other (List.mem_cons_of_mem _ member)
  stop_le := fun other member => inOrder.stop_le other (List.mem_cons_of_mem _ member)
  pairwise := (List.pairwise_cons.mp inOrder.pairwise).2

theorem InOrder.behind {earlier : List Finding}
    (inOrder : InOrder length place (earlier ++ findings)) : InOrder length place findings where
  le_start := fun other member => inOrder.le_start other (List.mem_append_right _ member)
  forward := fun other member => inOrder.forward other (List.mem_append_right _ member)
  stop_le := fun other member => inOrder.stop_le other (List.mem_append_right _ member)
  pairwise := (List.pairwise_append.mp inOrder.pairwise).2.1

/-- The second characters are the first ones, which stand `place` characters into a text, with the
first suggestion of each finding in place of the characters that it marks. -/
inductive Patched : Nat → List Char → List Finding → List Char → Prop where
  | done (place : Nat) (rest : List Char) : Patched place rest [] rest
  | patch {place : Nat} {before marked rest written : List Char} {finding : Finding}
      {later : List Finding} {suggestion : String}
      (start_eq : finding.start = place + before.length)
      (stop_eq : finding.stop = finding.start + marked.length)
      (first : finding.suggestions.head? = some suggestion)
      (onward : Patched finding.stop rest later written) :
      Patched place (before ++ marked ++ rest) (finding :: later)
        (before ++ suggestion.toList ++ written)

theorem take_append_extract {α : Type} {elements : List α} {first second : Nat}
    (le : first ≤ second) :
    elements.take first ++ elements.extract first second = elements.take second :=
  extract_append_extract (Nat.zero_le first) le

theorem extract_append_drop {α : Type} {elements : List α} {first second : Nat}
    (le : first ≤ second) :
    elements.extract first second ++ elements.drop second = elements.drop first := by
  have place_eq : second = first + (second - first) := by omega
  rw [List.extract]
  nth_rewrite 2 [place_eq]
  rw [← List.drop_drop, List.take_append_drop]

/-- Findings that are written into a text from the last to the first leave what stands before the
first, and patch the rest. -/
theorem InOrder.exists_patched (inOrder : InOrder chars.length place findings)
    (suggests : ∀ finding ∈ findings, finding.suggestions ≠ []) :
    ∃ written, findings.foldr (fun finding text => replace text finding) chars =
        chars.take place ++ written ∧
      Patched place (chars.drop place) findings written := by
  induction findings generalizing place with
  | nil => exact ⟨chars.drop place, (List.take_append_drop place chars).symm, .done _ _⟩
  | cons finding later induction =>
      rcases induction inOrder.later
          (fun other member => suggests other (List.mem_cons_of_mem _ member)) with
        ⟨written, later_eq, patched⟩
      have place_le := inOrder.le_start finding List.mem_cons_self
      have start_le := inOrder.forward finding List.mem_cons_self
      have stop_le := inOrder.stop_le finding List.mem_cons_self
      rcases List.exists_cons_of_ne_nil (suggests finding List.mem_cons_self) with
        ⟨suggestion, others, suggestions_eq⟩
      have take_length : (chars.take finding.stop).length = finding.stop :=
        List.length_take_of_le stop_le
      refine ⟨chars.extract place finding.start ++ suggestion.toList ++ written, ?_, ?_⟩
      · rw [List.foldr_cons, later_eq, replace, suggestions_eq, List.headD_cons,
          List.take_append_of_le_length (start_le.trans_eq take_length.symm), List.take_take,
          Nat.min_eq_left start_le, List.drop_append_of_le_length take_length.ge,
          List.drop_of_length_le take_length.le, List.nil_append, ← take_append_extract place_le,
          List.append_assoc, List.append_assoc, List.append_assoc]
      · rw [← extract_append_drop place_le, ← extract_append_drop start_le, ← List.append_assoc]
        refine .patch ?_ ?_ (by rw [suggestions_eq]; rfl) patched
        · rw [List.extract, List.length_take, List.length_drop]
          omega
        · rw [List.extract, List.length_take, List.length_drop]
          omega

/-- When a finding is written into a text, behind which later ones were written already, the
characters that it marks are there. -/
theorem InOrder.stop_le_length (inOrder : InOrder chars.length place (finding :: findings))
    (suggests : ∀ other ∈ finding :: findings, other.suggestions ≠ []) :
    finding.stop ≤ (findings.foldr (fun finding text => replace text finding) chars).length := by
  rcases inOrder.later.exists_patched
      (fun other member => suggests other (List.mem_cons_of_mem _ member)) with
    ⟨written, later_eq, -⟩
  rw [later_eq, List.length_append,
    List.length_take_of_le (inOrder.stop_le finding List.mem_cons_self)]
  exact Nat.le_add_right _ _

/-! ## The corrected text -/

/-- What is accepted of the findings in a text follows each other there. -/
theorem inOrder_accept (checker : Checker) (text : String) :
    InOrder text.length 0 (accept text.length (checker.check text)) := by
  have accepts : Accepts text.length (checker.check text)
      (accept text.length (checker.check text)) :=
    accepts_accept (pairwise_check checker text)
  have range (finding : Finding) (taken : finding ∈ accept text.length (checker.check text)) :=
    range_of_mem_check (accepts.sublist.subset taken)
  refine ⟨fun _ _ => Nat.zero_le _, fun finding taken => (range finding taken).1,
    fun finding taken => (range finding taken).2, ?_⟩
  have sorted := (pairwise_check checker text).sublist accepts.sublist
  refine (sorted.and accepts.apart).imp_of_mem fun {former latter} _ taken both => ?_
  exact (start_lt_and_stop_le_of_not_conflicts both.1 (range latter taken).1 both.2).2

/--
The findings that are written into a text are some of those that checking it gives, in order.  They
have suggestions, are about stretches of the text that follow each other, and the corrected text is
the text with the first suggestion of each in place of its stretch.  A finding with suggestions that
is not among them overlaps one of them, or starts where it starts, and does not start before it.
They are written from the last to the first, each into a text that has the characters it marks.
-/
theorem correct_patches_text (checker : Checker) (text : String) :
    ∃ accepted, Rulebook.sortByStart (accept text.length (checker.check text)) = accepted ∧
      accepted.Sublist (checker.check text) ∧
      (∀ finding ∈ accepted, finding.suggestions ≠ []) ∧
      (accepted.Pairwise fun former latter =>
        former.start < latter.start ∧ former.stop ≤ latter.start) ∧
      Patched 0 text.toList accepted (checker.correct text).toList ∧
      (∀ finding ∈ checker.check text, finding.suggestions ≠ [] →
        ∃ other ∈ accepted,
          (other.start < finding.stop ∧ finding.start < other.stop ∨
              other.start = finding.start) ∧
            other.start ≤ finding.start) ∧
      ∀ earlier finding later, accepted = earlier ++ finding :: later →
        finding.start ≤ finding.stop ∧
          finding.stop ≤ (later.reverse.foldl replace text.toList).length := by
  have accepts : Accepts text.length (checker.check text)
      (accept text.length (checker.check text)) :=
    accepts_accept (pairwise_check checker text)
  have inOrder := inOrder_accept checker text
  have sorted := (pairwise_check checker text).sublist accepts.sublist
  have sorted_eq : Rulebook.sortByStart (accept text.length (checker.check text)) =
      accept text.length (checker.check text) :=
    Rulebook.sortByStart_of_pairwise sorted
  have correct_eq : checker.correct text = String.ofList
      ((accept text.length (checker.check text)).reverse.foldl replace text.toList) := by
    rw [correct, String.length_toList, sorted_eq]
  rw [sorted_eq]
  generalize accept text.length (checker.check text) = accepted at *
  rw [← String.length_toList] at inOrder
  refine ⟨accepted, rfl, accepts.sublist, accepts.suggests, ?_, ?_, ?_, ?_⟩
  · refine (sorted.and accepts.apart).imp_of_mem fun {former latter} _ taken both => ?_
    exact start_lt_and_stop_le_of_not_conflicts both.1 (inOrder.forward latter taken) both.2
  · rcases inOrder.exists_patched accepts.suggests with ⟨written, written_eq, patched⟩
    rw [correct_eq, String.toList_ofList, List.foldl_reverse, written_eq]
    exact patched
  · intro finding member suggests
    rcases accepts.settled finding member suggests (range_of_mem_check member).2 with
      ⟨other, taken, conflicting, le_start⟩
    rw [conflicts, Finding.overlaps, Bool.or_eq_true, Bool.and_eq_true, decide_eq_true_iff,
      decide_eq_true_iff, beq_iff_eq] at conflicting
    exact ⟨other, taken, conflicting, le_start⟩
  · intro earlier finding later accepted_eq
    subst accepted_eq
    refine ⟨inOrder.behind.forward finding List.mem_cons_self, ?_⟩
    rw [List.foldl_reverse]
    exact inOrder.behind.stop_le_length fun other member =>
      accepts.suggests other (List.mem_append_right _ member)

/-- Of three findings the second one begins within the first, and is left out. -/
theorem correct_patches_text_of_overlapping_phrases :
    ∃ phrase word,
      { RuleSpec.named "PHRASE" with
          slots := [{ SlotSpec.word "a" with caseSensitive := true },
            { SlotSpec.word "b" with caseSensitive := true }]
          suggestions := ["c"] }.compile = .ok phrase ∧
      { RuleSpec.named "WORD" with
          slots := [{ SlotSpec.word "b" with caseSensitive := true }]
          suggestions := ["de"] }.compile = .ok word ∧
      let checker : Checker := ⟨.plain "es" "Español", none, [], ⟨[phrase, word]⟩, 200⟩
      checker.check "a b, b" =
          [⟨"PHRASE", 0, 3, 1, 3, 0, 3, "", "", ["c"]⟩, ⟨"WORD", 2, 3, 2, 3, 2, 3, "", "", ["de"]⟩,
            ⟨"WORD", 5, 6, 4, 5, 5, 6, "", "", ["de"]⟩] ∧
        Patched 0 "a b, b".toList
          [⟨"PHRASE", 0, 3, 1, 3, 0, 3, "", "", ["c"]⟩, ⟨"WORD", 5, 6, 4, 5, 5, 6, "", "", ["de"]⟩]
          "c, de".toList ∧
        checker.correct "a b, b" = "c, de" := by
  have phraseText_eq : Template.ofText "c" = ⟨[], ['c']⟩ := by decide +kernel
  have wordText_eq : Template.ofText "de" = ⟨[], ['d', 'e']⟩ := by decide +kernel
  apply Exists.intro
  apply Exists.intro
  refine ⟨?_, ?_, ?_⟩
  · simp only [RuleSpec.compile, RuleSpec.named, RuleSpec.templates, List.flatMap_cons,
      List.flatMap_nil, Rule.ofText_empty, phraseText_eq]
    rfl
  · simp only [RuleSpec.compile, RuleSpec.named, RuleSpec.templates, List.flatMap_cons,
      List.flatMap_nil, Rule.ofText_empty, wordText_eq]
    rfl
  generalize phrase_eq : Rule.mk _ _ _ _ _ ["c"] _ _ _ _ _ = phrase
  generalize word_eq : Rule.mk _ _ _ _ _ ["de"] _ _ _ _ _ = word
  intro checker
  let language := Language.plain "es" "Español"
  let sentence : Sentence := ⟨[.opening, .ofWord "a" 0,
    { Position.ofWord "b" 2 with spaceBefore := true }, .ofWord "," 3,
    { Position.ofWord "b" 5 with
      spaceBefore := true, sentenceEnd := true, paragraphEnd := true }]⟩
  -- the analysis of the text does not depend on the rules
  have analyzed : Checker.analyzeText ⟨language, none, [], .empty, 200⟩ "a b, b" =
      [(0, sentence)] := by
    decide +kernel
  have phraseFinds : phrase.findings none language sentence =
      .ok [⟨"PHRASE", 0, 3, 1, 3, 0, 3, "", "", ["c"]⟩] := by
    subst phrase_eq
    simp only [Rule.findings, Rule.searchFindings, Rule.exempted, Rule.finding,
      Rule.suggestionsOf, Rule.ofText_empty, phraseText_eq, List.mapM_cons, List.mapM_nil,
      Query.occurrences, Sentence.length, sentence, List.length_cons, List.length_nil,
      Nat.zero_add, Query.scan, Query.occurrenceAt?_eq_offers]
    decide +kernel
  have wordFinds : word.findings none language sentence =
      .ok [⟨"WORD", 2, 3, 2, 3, 2, 3, "", "", ["de"]⟩,
        ⟨"WORD", 5, 6, 4, 5, 5, 6, "", "", ["de"]⟩] := by
    subst word_eq
    simp only [Rule.findings, Rule.searchFindings, Rule.exempted, Rule.finding,
      Rule.suggestionsOf, Rule.ofText_empty, wordText_eq, List.mapM_cons, List.mapM_nil,
      Query.occurrences, Sentence.length, sentence, List.length_cons, List.length_nil,
      Nat.zero_add, Query.scan, Query.occurrenceAt?_eq_offers]
    decide +kernel
  have enabled : checker.rulebook.enabledRules = [phrase, word] := by
    subst phrase_eq word_eq
    rfl
  have checked : checker.check "a b, b" =
      [⟨"PHRASE", 0, 3, 1, 3, 0, 3, "", "", ["c"]⟩, ⟨"WORD", 2, 3, 2, 3, 2, 3, "", "", ["de"]⟩,
        ⟨"WORD", 5, 6, 4, 5, 5, 6, "", "", ["de"]⟩] := by
    change checker.rulebook.analyzeAll none language
      (Checker.analyzeText ⟨language, none, [], .empty, 200⟩ "a b, b") = _
    rw [analyzed, Rulebook.analyzeAll, List.flatMap_cons, List.flatMap_nil, List.append_nil,
      Rulebook.analyze, enabled, List.flatMap_cons, List.flatMap_cons, List.flatMap_nil,
      Rulebook.findingsOf, phraseFinds, Rulebook.findingsOf, wordFinds,
      Rulebook.sortByStart_of_pairwise (by decide)]
    rfl
  obtain ⟨accepted, accepted_eq, -, -, -, patched, -⟩ := correct_patches_text checker "a b, b"
  have taken : Rulebook.sortByStart (accept "a b, b".length (checker.check "a b, b")) =
      [⟨"PHRASE", 0, 3, 1, 3, 0, 3, "", "", ["c"]⟩,
        ⟨"WORD", 5, 6, 4, 5, 5, 6, "", "", ["de"]⟩] := by
    rw [checked]
    exact Rulebook.sortByStart_of_pairwise (by decide)
  have corrected : checker.correct "a b, b" = "c, de" := by
    rw [correct, String.length_toList, taken]
    decide +kernel
  rw [← accepted_eq, taken, corrected] at patched
  exact ⟨checked, patched, corrected⟩

end PhraseRules.Checker
