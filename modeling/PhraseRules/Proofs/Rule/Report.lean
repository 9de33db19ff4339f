import PhraseRules.Proofs.Rule.Marked
import PhraseRules.Proofs.Rule.Span
import PhraseRules.Proofs.Rule.Template
import PhraseRules.Proofs.Sentence.Faultless

/-!
# Reports

What a rule reports of an occurrence lies within it, and reports follow each other as the
occurrences do.  A report ends where a word does, and not before it begins if that offset fits into
a machine word.  Everything that is read on the way to a report stands in the sentence, in the
pattern or in the texts of the rule (`Rule.ReadsWithin`), so that a report does not depend on what
lies behind the sentence.
-/

namespace PhraseRules

open PhraseRules.Outcome

namespace Rule

variable {rule : Rule} {sentence : Sentence} {synthesizer : Option Synthesizer}
  {language : Language} {start : Nat} {occurrence : Occurrence} {finding report : Finding}

/-! ## Where reports lie -/

/-- What is reported of an occurrence.  It is about as few words in a row as take in all marked
ones, or about the whole occurrence if there are none.  Its offsets are those of the first and of
the last of these words, and in order if the last word ends at an offset that a machine word
holds. -/
structure IsReport (rule : Rule) (synthesizer : Option Synthesizer) (language : Language)
    (sentence : Sentence) (occurrence : Occurrence) (report : Finding) : Prop where
  found : (rule.query synthesizer language rule.slots).occurrenceAt? sentence occurrence.start =
    .ok (some occurrence)
  reported : (rule.finding synthesizer language sentence occurrence).map Finding.wrapped =
    .ok report
  start_le : occurrence.start ≤ report.firstWord
  firstWord_lt : report.firstWord < report.lastWord
  lastWord_le : report.lastWord ≤ occurrence.stop
  begins : ∃ first, sentence.positions[report.firstWord]? = some first ∧
    report.start = first.start
  ends : ∃ last, sentence.positions[report.lastWord - 1]? = some last ∧
    report.stop = wrapOffset (last.start + last.text.length) ∧
    (last.start + last.text.length < offsetLimit → report.start ≤ report.stop)
  marks : IsTightest (rule.Marks occurrence) report.firstWord report.lastWord ∨
    (∀ place, ¬rule.Marks occurrence place) ∧
      report.firstWord = occurrence.start ∧ report.lastWord = occurrence.stop

theorem markedSpan_of_finding
    (reported : rule.finding synthesizer language sentence occurrence = .ok finding) :
    rule.markedSpan occurrence = (finding.firstWord, finding.lastWord) := by
  rw [Rule.finding] at reported
  rcases bind_eq_ok_iff.mp reported with ⟨message, -, reported⟩
  rcases bind_eq_ok_iff.mp reported with ⟨shortMessage, -, reported⟩
  rcases bind_eq_ok_iff.mp reported with ⟨suggestions, -, equal⟩
  rcases Except.ok.inj equal with rfl
  rfl

/-- Words farther on do not start earlier. -/
theorem start_le_start {positions : List Position}
    (ordered : positions.Pairwise fun former latter => former.start ≤ latter.start)
    {former latter : Nat} (le : former ≤ latter) {first second : Position}
    (standing : positions[former]? = some first)
    (standingLater : positions[latter]? = some second) :
    first.start ≤ second.start := by
  rcases Nat.eq_or_lt_of_le le with rfl | less
  · cases standing.symm.trans standingLater
    exact Nat.le_refl _
  · rcases List.getElem?_eq_some_iff.mp standing with ⟨inside, rfl⟩
    rcases List.getElem?_eq_some_iff.mp standingLater with ⟨insideLater, rfl⟩
    exact List.pairwise_iff_getElem.mp ordered former latter inside insideLater less

theorem isReport_of_finding
    (ordered : sentence.positions.Pairwise fun former latter => former.start ≤ latter.start)
    (found : (rule.query synthesizer language rule.slots).occurrenceAt? sentence
      occurrence.start = .ok (some occurrence))
    (reported : rule.finding synthesizer language sentence occurrence = .ok finding) :
    rule.IsReport synthesizer language sentence occurrence finding.wrapped := by
  have span_eq := markedSpan_of_finding reported
  have within := markedSpan_within rule found
  have start_le := start_le_markedSpan rule found
  have marks := rule.markedSpan_spec occurrence
  rw [span_eq] at within start_le marks
  have covers := covers_of_finding found reported
  obtain ⟨first, standing, start_eq⟩ := covers.start_eq
  obtain ⟨last, standingLast, stop_eq⟩ := covers.stop_eq
  refine ⟨found, by rw [reported, map_ok], start_le, within.1, within.2,
    ⟨first, standing, start_eq.symm⟩,
    ⟨last, standingLast, congrArg wrapOffset stop_eq.symm, fun fits => ?_⟩,
    marks.imp_right fun ⟨noneMarked, equal⟩ => ⟨noneMarked, Prod.mk.inj equal⟩⟩
  have first_le : finding.firstWord ≤ finding.lastWord - 1 := by
    have := within.1
    omega
  calc finding.start = first.start := start_eq.symm
    _ ≤ last.start := start_le_start ordered first_le standing standingLast
    _ ≤ last.stop := Nat.le_add_right _ _
    _ = finding.stop := stop_eq
    _ = wrapOffset finding.stop := (wrapOffset_of_lt (stop_eq ▸ fits)).symm

/-- What is reported in a sentence are reports of occurrences that follow each other. -/
theorem exists_occurrences_of_reports
    (ordered : sentence.positions.Pairwise fun former latter => former.start ≤ latter.start)
    {reports : List Finding}
    (reported : rule.reports synthesizer language sentence = .ok reports) :
    ∃ chosen : List Occurrence,
      List.Forall₂ (rule.IsReport synthesizer language sentence) chosen reports ∧
      chosen.Pairwise fun former latter => former.stop ≤ latter.start := by
  rcases map_eq_ok_iff.mp reported with ⟨findings, findings_eq, rfl⟩
  rcases exists_chosen_of_findings findings_eq with ⟨chosen, reports, follow⟩
  refine ⟨chosen, List.forall₂_map_right_iff.mpr (reports.imp fun occurrence finding report => ?_),
    follow⟩
  exact isReport_of_finding ordered report.1 report.2

/-- Reports of occurrences that follow each other follow each other. -/
theorem follows_of_isReport
    (ordered : sentence.positions.Pairwise fun former latter => former.start ≤ latter.start)
    {earlier later : Occurrence} {next : Finding}
    (isReport : rule.IsReport synthesizer language sentence earlier report)
    (isNext : rule.IsReport synthesizer language sentence later next)
    (follows : earlier.stop ≤ later.start) :
    report.lastWord ≤ next.firstWord ∧ report.start ≤ next.start := by
  have lastWord_le : report.lastWord ≤ next.firstWord :=
    isReport.lastWord_le.trans (follows.trans isNext.start_le)
  refine ⟨lastWord_le, ?_⟩
  rcases isReport.begins with ⟨first, standing, start_eq⟩
  rcases isNext.begins with ⟨second, standingNext, startNext_eq⟩
  rw [start_eq, startNext_eq]
  exact start_le_start ordered (isReport.firstWord_lt.le.trans lastWord_le) standing standingNext

/-! ## What is read for a report -/

/--
Everything that is read to report an occurrence is there: the slots and the positions that are
bound, the first and the last position of the occurrence and of its marked words, the words that
renderings take in, and the literal text of templates.  No rendering ends with slot zero.
-/
structure ReadsWithin (rule : Rule) (sentence : Sentence) (occurrence : Occurrence) : Prop where
  slots : ∀ binding ∈ occurrence.bindings, binding.slot < rule.slots.length
  positions : ∀ binding ∈ occurrence.bindings, binding.position < sentence.length
  ends : occurrence.start < occurrence.stop ∧ occurrence.stop ≤ sentence.length
  marked : (rule.markedSpan occurrence).1 < (rule.markedSpan occurrence).2 ∧
    (rule.markedSpan occurrence).2 ≤ sentence.length
  lastSlots : ∀ number rendering, rule.rendering? number = some rendering →
    ∀ last ∈ rendering.lastSlot, 1 ≤ last
  extents : ∀ rendering slot, ∀ last ∈ occurrence.positionsOf slot,
    extentEnd rendering occurrence slot last ≤ sentence.length
  templates : ∀ text ∈ rule.message :: rule.shortMessage :: rule.suggestions,
    (Template.ofText text).CutsOut text.toList

theorem positionsOf_lt
    (inside : ∀ binding ∈ occurrence.bindings, binding.position < sentence.length) {slot : Nat} :
    ∀ place ∈ occurrence.positionsOf slot, place < sentence.length := by
  intro place member
  rcases List.mem_map.mp member with ⟨binding, bound, rfl⟩
  exact inside binding (List.mem_filter.mp bound).1

/-- The words that a rendering takes in end within the sentence. -/
theorem extentEnd_le
    (inside : ∀ binding ∈ occurrence.bindings, binding.position < sentence.length)
    (rendering : Rendering) {slot last : Nat} (last_lt : last < sentence.length) :
    extentEnd rendering occurrence slot last ≤ sentence.length := by
  rw [extentEnd]
  dsimp only
  split
  case h_1 position named =>
      rcases Option.bind_eq_some_iff.mp named with ⟨number, -, found⟩
      exact positionsOf_lt inside _ (List.mem_of_getLast? found)
  case h_2 =>
      generalize behind_eq : ((occurrence.bindings.filter fun binding =>
        decide (slot < binding.slot)).map (·.position)).min? = behind
      cases behind with
      | none => exact last_lt
      | some place =>
          have member := (List.min?_eq_some_iff.mp behind_eq).1
          rcases List.mem_map.mp member with ⟨binding, bound, rfl⟩
          exact (inside binding (List.mem_filter.mp bound).1).le

theorem readsWithin {spec : RuleSpec} (compiled : spec.compile = .ok rule)
    (found : (rule.query synthesizer language rule.slots).occurrenceAt? sentence start =
      .ok (some occurrence)) : rule.ReadsWithin sentence occurrence := by
  have meets := Query.meets_of_occurrenceAt? found
  have inside : ∀ binding ∈ occurrence.bindings, binding.position < sentence.length :=
    fun binding member =>
      (Query.within_of_occurrenceAt? found member).2.trans_le meets.stop_le_length
  have checks := RuleSpec.checksReferences_of_compile compiled
  refine ⟨?_, inside, ?_, ?_, ?_, ?_, ?_⟩
  · exact fun binding member => Query.slot_lt_of_occurrenceAt? found member
  · exact ⟨meets.start_eq ▸ meets.start_lt_stop, meets.stop_le_length⟩
  · have within := markedSpan_within rule found
    exact ⟨within.1, within.2.trans meets.stop_le_length⟩
  · intro number rendering chosen last isLast
    have placed := (checks.renderings _ (SortedMap.mem_of_find? chosen)).2
    have slot_le := placed.slot_le
    rw [Option.mem_def.mp isLast] at slot_le
    exact placed.one_le_slot.trans slot_le
  · exact fun rendering slot last member =>
      extentEnd_le inside rendering (positionsOf_lt inside last member)
  · intro text _
    exact (Template.ofText_eq_iff.mp rfl).cutsOut

/-! ## Reports do not depend on what is behind the sentence -/

theorem getD_append {positions : List Position} (behind : List Position) {index : Nat}
    (inside : index < positions.length) :
    (positions ++ behind)[index]?.getD default = positions[index]?.getD default := by
  rw [List.getElem?_append_left inside]

theorem textOfBound_append {positions : List Position} (behind : List Position)
    {places : List Nat} (inside : ∀ place ∈ places, place < positions.length) :
    textOfBound (positions ++ behind) places = textOfBound positions places := by
  rw [textOfBound, textOfBound]
  refine List.foldl_ext _ _ _ fun written place member => ?_
  rw [getD_append behind (inside place member)]

theorem take_drop_append {positions : List Position} (behind : List Position) {first stop : Nat}
    (first_lt : first < positions.length) (stop_le : stop ≤ positions.length) :
    ((positions ++ behind).drop (first + 1)).take (stop - (first + 1)) =
      (positions.drop (first + 1)).take (stop - (first + 1)) := by
  rw [List.drop_append_of_le_length first_lt, List.take_append_of_le_length]
  rw [List.length_drop]
  exact Nat.sub_le_sub_right stop_le _

theorem caseSample_append {positions : List Position} (behind : List Position) {first last : Nat}
    (first_lt : first < last) (last_le : last ≤ positions.length) :
    caseSample (positions ++ behind) first last = caseSample positions first last := by
  rw [caseSample, caseSample, getD_append behind (first_lt.trans_le last_le)]
  split
  case isTrue goesOn =>
      rw [Bool.and_eq_true, decide_eq_true_eq] at goesOn
      rw [getD_append behind (goesOn.2.trans_le last_le)]
  case isFalse => rfl

namespace ReadsWithin

variable (reads : rule.ReadsWithin sentence occurrence) (synthesizer : Option Synthesizer)
  (language : Language) (behind : List Position)

include reads

theorem valuesOf_append (number : Nat) :
    rule.valuesOf synthesizer language ⟨sentence.positions ++ behind⟩ occurrence number =
      rule.valuesOf synthesizer language sentence occurrence number := by
  cases number with
  | zero => rfl
  | succ slot =>
      have inside : ∀ place ∈ occurrence.positionsOf slot, place < sentence.positions.length :=
        positionsOf_lt reads.positions
      have text_eq := textOfBound_append behind inside
      rw [valuesOf, valuesOf]
      dsimp only
      split
      case h_1 binding others last bound lastBound =>
          have isBound : binding.position ∈ occurrence.positionsOf slot := by
            rw [Occurrence.positionsOf, bound]
            exact List.mem_cons_self
          have extent_le (rendering : Rendering) :
              extentEnd rendering occurrence slot last ≤ sentence.positions.length :=
            reads.extents rendering slot last (List.mem_of_getLast? lastBound)
          simp only [text_eq, getD_append behind (inside _ isBound),
            take_drop_append behind (inside _ isBound) (extent_le _)]
      case h_2 => rfl

theorem finding_append :
    rule.finding synthesizer language ⟨sentence.positions ++ behind⟩ occurrence =
      rule.finding synthesizer language sentence occurrence := by
  have values_eq : rule.valuesOf synthesizer language ⟨sentence.positions ++ behind⟩ occurrence =
      rule.valuesOf synthesizer language sentence occurrence :=
    funext (reads.valuesOf_append synthesizer language behind)
  have suggestions_eq (uppercase : Bool) :
      rule.suggestionsOf synthesizer language ⟨sentence.positions ++ behind⟩ occurrence uppercase =
        rule.suggestionsOf synthesizer language sentence occurrence uppercase := by
    funext text
    rw [suggestionsOf, suggestionsOf, values_eq]
  have marked := reads.marked
  have ends := reads.ends
  rw [Sentence.length] at marked ends
  -- the offsets of a report are those of four positions, all within the sentence
  have first_lt := marked.1.trans_le marked.2
  have last_lt := (Nat.sub_one_lt_of_lt marked.1).trans_le marked.2
  have start_lt := ends.1.trans_le ends.2
  have stop_lt := (Nat.sub_one_lt_of_lt ends.1).trans_le ends.2
  rw [Rule.finding, Rule.finding, values_eq]
  simp only [suggestions_eq, caseSample_append behind marked.1 marked.2,
    getD_append behind first_lt, getD_append behind last_lt, getD_append behind start_lt,
    getD_append behind stop_lt]

end ReadsWithin

/-! ## All reports in a sentence -/

/--
What a rule reports in a sentence are reports of occurrences of its pattern.  Each one is about
words of its occurrence, as few in a row as take in all marked ones, and does not end before it
begins if the offset behind its last word fits into a machine word; the next one begins neither
before the last word of it nor at a smaller offset.  All that is read for the report of an
occurrence is there: it would be the same if more words stood behind the sentence.  The offsets of
the sentence may not decrease, as they never do in one that can be made.
-/
theorem reports_nested {spec : RuleSpec} (compiled : spec.compile = .ok rule)
    (faultless : Sentence.IsFaultless sentence.positions) (synthesizer : Option Synthesizer)
    (language : Language) :
    (∀ reports, rule.reports synthesizer language sentence = .ok reports →
      (∃ chosen, List.Forall₂ (rule.IsReport synthesizer language sentence) chosen reports) ∧
      reports.Pairwise fun earlier later =>
        earlier.lastWord ≤ later.firstWord ∧ earlier.start ≤ later.start) ∧
    ∀ start occurrence,
      (rule.query synthesizer language rule.slots).occurrenceAt? sentence start =
        .ok (some occurrence) →
      rule.ReadsWithin sentence occurrence ∧
      ∀ behind, rule.finding synthesizer language ⟨sentence.positions ++ behind⟩ occurrence =
        rule.finding synthesizer language sentence occurrence := by
  constructor
  · intro reports reported
    rcases exists_occurrences_of_reports faultless.ordered reported with ⟨chosen, isReport, follow⟩
    refine ⟨⟨chosen, isReport⟩, pairwise_of_forall₂ ?_ isReport follow⟩
    intro earlier later report next
    exact follows_of_isReport faultless.ordered
  · intro start occurrence found
    have reads := readsWithin compiled found
    exact ⟨reads, reads.finding_append synthesizer language⟩

/-- Nouns are marked in two phrases, and the message takes in what is bound of each: in the first
one the last slot is left out. -/
theorem reports_nested_of_marked_nouns :
    ∃ rule sentence reports,
      { RuleSpec.named "R" with
          slots := [{ SlotSpec.word "la" with caseSensitive := true },
            { SlotSpec.word "casa" with caseSensitive := true, marked := some true },
            { SlotSpec.word "roja" with caseSensitive := true, least := 0 }]
          message := "\\1"
          renderings := [{ Rendering.ofSlot 1 with extent := .following, lastSlot := some 3 }]
          }.compile = .ok rule ∧
      sentence = Sentence.ofWords ["la", "casa", "y", "la", "casa", "roja"] ∧
      reports = [⟨"R", 3, 7, 2, 3, 0, 7, "la", "", []⟩,
        ⟨"R", 13, 17, 5, 6, 10, 22, "la casa roja", "", []⟩] ∧
      rule.reports none (.plain "es" "Español") sentence = .ok reports ∧
      (∃ chosen, List.Forall₂ (rule.IsReport none (.plain "es" "Español") sentence) chosen
        reports) ∧
      ∃ occurrence,
        (rule.query none (.plain "es" "Español") rule.slots).occurrenceAt? sentence 4 =
            .ok (some occurrence) ∧
          rule.ReadsWithin sentence occurrence := by
  have message_eq : Template.ofText "\\1" = ⟨[⟨[], ['1']⟩], []⟩ := by decide +kernel
  have made : Sentence.ofPositions
      (Sentence.ofWords ["la", "casa", "y", "la", "casa", "roja"]).positions =
        .ok (Sentence.ofWords ["la", "casa", "y", "la", "casa", "roja"]) := by
    decide +kernel
  obtain ⟨rule, compiled, reported, found⟩ : ∃ rule,
      { RuleSpec.named "R" with
          slots := [{ SlotSpec.word "la" with caseSensitive := true },
            { SlotSpec.word "casa" with caseSensitive := true, marked := some true },
            { SlotSpec.word "roja" with caseSensitive := true, least := 0 }]
          message := "\\1"
          renderings := [{ Rendering.ofSlot 1 with extent := .following, lastSlot := some 3 }]
          }.compile = .ok rule ∧
      rule.reports none (.plain "es" "Español")
          (.ofWords ["la", "casa", "y", "la", "casa", "roja"]) =
        .ok [⟨"R", 3, 7, 2, 3, 0, 7, "la", "", []⟩,
          ⟨"R", 13, 17, 5, 6, 10, 22, "la casa roja", "", []⟩] ∧
      (rule.query none (.plain "es" "Español") rule.slots).occurrenceAt?
          (.ofWords ["la", "casa", "y", "la", "casa", "roja"]) 4 =
        .ok (some ⟨4, 7, [⟨0, 4, [0]⟩, ⟨1, 5, [0]⟩, ⟨2, 6, [0]⟩]⟩) := by
    apply Exists.intro
    refine ⟨?_, ?_⟩
    · simp only [RuleSpec.compile, RuleSpec.named, RuleSpec.templates, List.flatMap_cons,
        List.flatMap_nil, ofText_empty, message_eq]
      rfl
    generalize rule_eq : Rule.mk _ _ _ _ _ _ _ _ _ _ _ = rule
    have passes : rule.mayOccur (.ofWords ["la", "casa", "y", "la", "casa", "roja"]) = true := by
      subst rule_eq
      decide +kernel
    rw [Rule.reports, Rule.findings, if_pos passes]
    subst rule_eq
    simp only [searchFindings, exempted, finding, message_eq, ofText_empty, Sentence.length,
      Sentence.ofWords, Sentence.positionsOfWords, List.length_cons, List.length_nil, Nat.zero_add,
      Query.scan, Query.occurrenceAt?_eq_offers]
    decide +kernel
  obtain ⟨nested, reads⟩ := reports_nested compiled (Sentence.ofPositions_eq_ok_iff.mp made).1 none
    (.plain "es" "Español")
  exact ⟨rule, _, _, compiled, rfl, rfl, reported, (nested _ reported).1, _, found,
    (reads 4 _ found).1⟩

/-- A word at the greatest offset ends behind it, at an offset that does not fit: the report of it
ends before it begins. -/
theorem exists_report_stop_lt_start :
    ∃ rule, { RuleSpec.named "R" with slots := [SlotSpec.word "a"] }.compile = .ok rule ∧
      ∃ sentence report,
        Sentence.ofPositions [.opening, .ofWord "a" (offsetLimit - 1)] = .ok sentence ∧
        rule.reports none (.plain "es" "Español") sentence = .ok [report] ∧
        report.stop < report.start := by
  apply Exists.intro
  refine ⟨?_, ⟨[.opening, .ofWord "a" (offsetLimit - 1)]⟩,
    ⟨"R", offsetLimit - 1, 0, 1, 2, offsetLimit - 1, 0, "", "", []⟩, ?_, ?_, ?_⟩
  · simp only [RuleSpec.compile, RuleSpec.named, RuleSpec.templates, List.flatMap_cons,
      List.flatMap_nil, ofText_empty]
    rfl
  · decide +kernel
  · generalize rule_eq : Rule.mk _ _ _ _ _ _ _ _ _ _ _ = rule
    have passes : rule.mayOccur ⟨[.opening, .ofWord "a" (offsetLimit - 1)]⟩ = true := by
      subst rule_eq
      decide +kernel
    rw [Rule.reports, Rule.findings, if_pos passes]
    subst rule_eq
    simp only [searchFindings, exempted, finding, ofText_empty, Sentence.length, List.length_cons,
      List.length_nil, Nat.zero_add, Query.scan, Query.occurrenceAt?_eq_offers]
    decide +kernel
  · decide +kernel

end Rule

end PhraseRules
