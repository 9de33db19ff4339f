import PhraseRules.Proofs.Rule.Compiled
import PhraseRules.Proofs.Rule.Prefilter
import PhraseRules.Proofs.Search.Failure
import PhraseRules.Proofs.Search.Reference
import PhraseRules.Rule.Finding

/-!
# Failures of rules

Most of what can be wrong with a rule is found when it is compiled, but not all: the references of
antipatterns are not checked, and what a reference makes of the text of a slot is known only when
its forms are.  `Rule.findings_fail_by_reference_or_synthesis` says that nothing else is left to
fail in a sentence but the synthesizer.
-/

namespace PhraseRules

open PhraseRules.Outcome

/-! ## Reports -/

namespace Template

variable {Fault : Type} {valuesOf : Nat → Except Fault (List String)} {fault : Fault}

/-- What asks for the values of each reference in turn can fail only in these. -/
theorem exists_of_fill_eq_error {Written Filled : Type}
    {fill : Written → List TemplateReference → Except Fault Filled}
    (fill_nil : ∀ written, fill written [] ≠ .error fault)
    (fill_cons : ∀ written reference later, ∃ write : List String → Written,
      fill written (reference :: later) =
        valuesOf reference.number >>= fun values => fill (write values) later)
    {written : Written} {references : List TemplateReference}
    (failed : fill written references = .error fault) :
    ∃ number, valuesOf number = .error fault := by
  induction references generalizing written with
  | nil => exact absurd failed (fill_nil written)
  | cons reference later induction =>
      rcases fill_cons written reference later with ⟨write, fill_eq⟩
      rw [fill_eq] at failed
      rcases bind_eq_error_iff.mp failed with failed | ⟨values, -, failed⟩
      · exact ⟨reference.number, failed⟩
      · exact induction failed

/-- A message can fail only in the values of its references. -/
theorem exists_of_message_eq_error {template : Template}
    (failed : template.message valuesOf = .error fault) :
    ∃ number, valuesOf number = .error fault := by
  rcases bind_eq_error_iff.mp failed with failed | ⟨_, -, impossible⟩
  · refine exists_of_fill_eq_error ?_ (fun _ _ _ => ⟨_, rfl⟩) failed
    exact fun _ impossible => by cases impossible
  · cases impossible

/-- Suggestions can fail only in the values of their references. -/
theorem exists_of_suggestions_eq_error {template : Template}
    (failed : template.suggestions valuesOf = .error fault) :
    ∃ number, valuesOf number = .error fault := by
  rcases bind_eq_error_iff.mp failed with failed | ⟨_, -, impossible⟩
  · refine exists_of_fill_eq_error ?_ (fun _ _ _ => ⟨_, rfl⟩) failed
    exact fun _ impossible => by cases impossible
  · cases impossible

end Template

namespace Rule

variable {rule : Rule} {sentence : Sentence} {synthesizer : Option Synthesizer}
  {language : Language} {fault : SearchError}

/-- The values of a reference are missing only if the synthesizer does not answer. -/
theorem reportsFailure_of_valuesOf {occurrence : Occurrence} {number : Nat}
    (failed : rule.valuesOf synthesizer language sentence occurrence number = .error fault) :
    ∃ failure, fault = .synthesis failure ∧ ReportsFailure synthesizer failure := by
  rw [valuesOf.eq_def] at failed
  split at failed
  case h_1 => cases failed
  case h_2 slot =>
      split at failed
      case h_2 => cases failed
      case h_1 =>
          split at failed
          case h_1 => cases failed
          case h_2 rendering _ =>
              rcases mapError_eq_error_iff.mp failed with ⟨failure, unanswered, rfl⟩
              exact ⟨failure, rfl, Rendering.reportsFailure_of_texts unanswered⟩

theorem reportsFailure_of_suggestionsOf {occurrence : Occurrence} {uppercase : Bool}
    {text : String}
    (failed : rule.suggestionsOf synthesizer language sentence occurrence uppercase text =
      .error fault) :
    ∃ failure, fault = .synthesis failure ∧ ReportsFailure synthesizer failure := by
  rcases bind_eq_error_iff.mp failed with failed | ⟨suggested, -, failed⟩
  · rcases Template.exists_of_suggestions_eq_error failed with ⟨number, failed⟩
    exact reportsFailure_of_valuesOf failed
  · split at failed
    · cases failed
    · cases failed

/-- An occurrence cannot be reported only if the synthesizer does not answer. -/
theorem reportsFailure_of_finding {occurrence : Occurrence}
    (failed : rule.finding synthesizer language sentence occurrence = .error fault) :
    ∃ failure, fault = .synthesis failure ∧ ReportsFailure synthesizer failure := by
  rcases bind_eq_error_iff.mp failed with failed | ⟨_, -, failed⟩
  · rcases Template.exists_of_message_eq_error failed with ⟨number, failed⟩
    exact reportsFailure_of_valuesOf failed
  rcases bind_eq_error_iff.mp failed with failed | ⟨_, -, failed⟩
  · rcases Template.exists_of_message_eq_error failed with ⟨number, failed⟩
    exact reportsFailure_of_valuesOf failed
  rcases bind_eq_error_iff.mp failed with failed | ⟨_, -, impossible⟩
  · rcases exists_of_mapM_eq_error failed with ⟨text, -, failed⟩
    exact reportsFailure_of_suggestionsOf failed
  · cases impossible

/-! ## Searches -/

/-- The failures that compiling a rule leaves possible. -/
inductive CanFailWith (rule : Rule) (synthesizer : Option Synthesizer) : SearchError → Prop where
  | unanswered {failure : SynthesisError} : ReportsFailure synthesizer failure →
      CanFailWith rule synthesizer (.synthesis failure)
  /-- A slot of an antipattern refers to itself, to a later slot or to none. -/
  | misplaced {slots : List Slot} {index : Nat} {slot : Slot} {reference : Rendering} :
      slots ∈ rule.antipatterns → slots[index]? = some slot → slot.reference = some reference →
        Query.IsMisplaced reference index →
          CanFailWith rule synthesizer (.reference index (.invalidBackReference reference.slot))
  /-- Forms make the text of a slot no regular expression, or a literal one too large. -/
  | malformed {slots : List Slot} {index : Nat} {slot : Slot} {reference : Rendering}
      {forms : List String} {cause : Regex.Fault} :
      slots ∈ rule.slots :: rule.antipatterns → slots[index]? = some slot →
        slot.reference = some reference → forms ≠ [] →
          slot.IsMalformedWith reference forms cause →
            (slot.criterion.text.isRegex = false → cause = .tooLarge) →
              CanFailWith rule synthesizer
                (.reference index (.invalidRegex (slot.filledText reference forms) cause))

theorem canFailWith_of_failsAt {spec : RuleSpec} (compiles : spec.Compiles rule)
    {slots : List Slot} (listed : slots ∈ rule.slots :: rule.antipatterns)
    {positions : List Position} {index : Nat} {slot : Slot} (standing : slots[index]? = some slot)
    (fails : (rule.query synthesizer language slots).FailsAt positions index slot fault) :
    rule.CanFailWith synthesizer fault := by
  rcases fails.exists_resolve_eq_error fun _ _ _ found asks =>
    compiles.resolves listed found asks with ⟨bindings, failed⟩
  rcases Query.exists_referenceFails_of_resolve failed with ⟨reference, reference_eq, fails⟩
  cases fails with
  | misplaced misplaced =>
      rcases List.mem_cons.mp listed with rfl | listed
      · exact absurd misplaced (compiles.reference_le standing reference_eq)
      · exact .misplaced listed standing reference_eq misplaced
  | unanswered reports => exact .unanswered reports
  | malformed nonempty malformed =>
      exact .malformed listed standing reference_eq nonempty malformed
        fun literal => malformed.eq_tooLarge literal nonempty

/-- Every failure of a compiled rule is one of those that compiling leaves possible. -/
theorem canFailWith_of_findings {spec : RuleSpec} (compiles : spec.Compiles rule)
    (failed : rule.findings synthesizer language sentence = .error fault) :
    rule.CanFailWith synthesizer fault := by
  rw [findings] at failed
  split at failed
  case isFalse => cases failed
  case isTrue =>
      rcases bind_eq_error_iff.mp failed with failed | ⟨exempted, -, failed⟩
      · rcases bind_eq_error_iff.mp failed with failed | ⟨_, -, impossible⟩
        · rcases exists_of_mapM_eq_error failed with ⟨slots, listed, failed⟩
          rcases Query.exists_failsAt_of_occurrences failed with ⟨index, slot, standing, fails⟩
          exact canFailWith_of_failsAt compiles (List.mem_cons_of_mem _ listed) standing fails
        · cases impossible
      · rcases Query.exists_of_scan_eq_error failed with ⟨start, failed⟩ | ⟨occurrence, failed⟩
        · rcases Query.exists_failsAt_of_occurrenceAt? failed with ⟨index, slot, standing, fails⟩
          exact canFailWith_of_failsAt compiles List.mem_cons_self standing fails
        · split at failed
          case isTrue => cases failed
          case isFalse =>
              rcases reportsFailure_of_finding (map_eq_error_iff.mp failed) with
                ⟨failure, rfl, reports⟩
              exact .unanswered reports

/-- The slots described refer to earlier ones only, and have literal texts where they do. -/
def RefersSafely (specs : List SlotSpec) : Prop :=
  ∀ (index : Nat) slotSpec reference, specs[index]? = some slotSpec →
    slotSpec.reference = some reference →
      ¬Query.IsMisplaced reference index ∧ slotSpec.isRegex = false

/--
Where a rule that was compiled gives no findings, the synthesizer does not answer, a slot of an
antipattern has a misplaced reference, or forms make the text of a slot no regular expression;
features that are not defined are never met.  If the antipatterns, too, refer to earlier slots only,
and slots with references have literal texts, then only the synthesizer is left to fail, or a filled
text is too large.
-/
theorem findings_fail_by_reference_or_synthesis {spec : RuleSpec}
    (compiled : spec.compile = .ok rule)
    (failed : rule.findings synthesizer language sentence = .error fault) :
    rule.CanFailWith synthesizer fault ∧
      ((∀ specs ∈ spec.slots :: spec.antipatterns, RefersSafely specs) →
        (∃ failure, fault = .synthesis failure ∧ ReportsFailure synthesizer failure) ∨
          ∃ index text, fault = .reference index (.invalidRegex text .tooLarge)) := by
  have compiles := RuleSpec.compiles_of_compile compiled
  have canFail := canFailWith_of_findings compiles failed
  refine ⟨canFail, fun safe => ?_⟩
  have literal : ∀ slots ∈ rule.slots :: rule.antipatterns, ∀ (index : Nat) slot reference,
      slots[index]? = some slot → slot.reference = some reference →
        ¬Query.IsMisplaced reference index ∧ slot.criterion.text.isRegex = false := by
    intro slots listed index slot reference standing refers
    rcases compiles.exists_compileSlot listed with ⟨specs, described, each⟩
    rcases each index slot standing with ⟨slotSpec, found, compiledSlot⟩
    rcases bind_eq_ok_iff.mp compiledSlot with ⟨made, made_eq, compiledSlot⟩
    rcases bind_eq_ok_iff.mp compiledSlot with ⟨_, -, equal⟩
    cases equal
    rcases SlotSpec.reference_eq_of_compile made_eq with ⟨reference_eq, isRegex_eq⟩
    rw [isRegex_eq]
    exact safe specs described index slotSpec reference found (reference_eq.symm.trans refers)
  cases canFail with
  | unanswered reports => exact Or.inl ⟨_, rfl, reports⟩
  | misplaced listed standing refers misplaced =>
      exact absurd misplaced (literal _ (List.mem_cons_of_mem _ listed) _ _ _ standing refers).1
  | malformed listed standing refers nonempty malformed size =>
      rw [size (literal _ listed _ _ _ standing refers).2]
      exact Or.inr ⟨_, _, rfl⟩

/-- A word that has to be followed by a form of a verb, and a synthesizer that knows no verbs. -/
theorem findings_fail_by_reference_or_synthesis_of_unknown_verb :
    ∃ rule,
      { RuleSpec.named "R" with
          slots := [.word "a", { SlotSpec.word "\\1" with
            reference := some { Rendering.ofSlot 1 with
              tag := some (.literal "V" true), headword := some "ser" } }] }.compile = .ok rule ∧
      rule.findings (some fun headword target => .error ⟨headword, target.pattern, "desconocido"⟩)
          (.plain "es" "Español") (.ofWords ["a", "a"]) =
        .error (.synthesis ⟨"ser", "V", "desconocido"⟩) ∧
      ReportsFailure
        (some fun headword target => .error ⟨headword, target.pattern, "desconocido"⟩)
        ⟨"ser", "V", "desconocido"⟩ := by
  generalize slots_eq : [SlotSpec.word "a", { SlotSpec.word "\\1" with
    reference := some { Rendering.ofSlot 1 with
      tag := some (.literal "V" true), headword := some "ser" } }] = slots
  have safe : ∀ specs ∈ [slots], RefersSafely specs := by
    subst slots_eq
    rintro specs member (_ | _ | index) slotSpec reference found refers
    · rcases List.mem_singleton.mp member with rfl
      cases found
      cases refers
    · rcases List.mem_singleton.mp member with rfl
      cases found
      cases refers
      exact ⟨by decide, rfl⟩
    · rcases List.mem_singleton.mp member with rfl
      cases found
  obtain ⟨rule, compiled, failed⟩ :
      ∃ rule, { RuleSpec.named "R" with slots := slots }.compile = .ok rule ∧
        rule.findings (some fun headword target => .error ⟨headword, target.pattern, "desconocido"⟩)
            (.plain "es" "Español") (.ofWords ["a", "a"]) =
          .error (.synthesis ⟨"ser", "V", "desconocido"⟩) := by
    subst slots_eq
    apply Exists.intro
    refine ⟨?_, ?_⟩
    · simp only [RuleSpec.compile, RuleSpec.named, RuleSpec.templates, List.flatMap_cons,
        List.flatMap_nil, ofText_empty]
      rfl
    generalize rule_eq : Rule.mk _ _ _ _ _ _ _ _ _ _ _ = rule
    rw [findings, if_pos (by subst rule_eq; decide +kernel)]
    subst rule_eq
    simp only [searchFindings, exempted, finding, ofText_empty, Query.occurrences,
      Sentence.length, Sentence.ofWords, Sentence.positionsOfWords, List.length_cons,
      List.length_nil, Nat.zero_add, Query.scan, Query.occurrenceAt?_eq_offers]
    decide +kernel
  refine ⟨rule, compiled, failed, ?_⟩
  rcases (findings_fail_by_reference_or_synthesis compiled failed).2 safe with
    ⟨failure, equal, reports⟩ | ⟨_, _, impossible⟩
  · cases equal
    exact reports
  · cases impossible

/-- The only slot of an antipattern refers to itself, which is noticed in a sentence. -/
theorem findings_fail_of_misplaced_reference :
    ∃ rule,
      { RuleSpec.named "R" with
          slots := [.word "a"]
          antipatterns := [[{ SlotSpec.word "\\1" with
            reference := some (.ofSlot 1) }]] }.compile = .ok rule ∧
      rule.findings none (.plain "es" "Español") (.ofWords ["a"]) =
        .error (.reference 0 (.invalidBackReference 1)) := by
  apply Exists.intro
  refine ⟨?_, ?_⟩
  · simp only [RuleSpec.compile, RuleSpec.named, RuleSpec.templates, List.flatMap_cons,
      List.flatMap_nil, ofText_empty]
    rfl
  generalize rule_eq : Rule.mk _ _ _ _ _ _ _ _ _ _ _ = rule
  rw [findings, if_pos (by subst rule_eq; decide +kernel)]
  subst rule_eq
  simp only [searchFindings, exempted, finding, ofText_empty, Query.occurrences,
    Sentence.length, Sentence.ofWords, Sentence.positionsOfWords, List.length_cons,
    List.length_nil, Nat.zero_add, Query.scan, Query.occurrenceAt?_eq_offers]
  decide +kernel

end Rule

end PhraseRules
