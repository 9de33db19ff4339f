import PhraseRules.Proofs.Rule.Prefilter
import PhraseRules.Rulebook

/-!
# Rules beside each other

What a rulebook finds in a sentence is what its enabled rules find one by one, less the rules that
fail, in the order in which the findings start (`Rulebook.IsStablySorted`).  This alone decides what
is reported, so the order of the rules decides nothing but the order of findings that start
together, and a rule that is disabled or fails leaves no trace.
-/

namespace PhraseRules.Rulebook

variable {findings sorted other : List Finding}

/-! ## Sorted findings -/

/-- The findings stand in the order in which they start; those that start together stand as they
were listed. -/
structure IsStablySorted (findings sorted : List Finding) : Prop where
  perm : sorted.Perm findings
  ordered : sorted.Pairwise fun former latter => former.start ≤ latter.start
  stable : ∀ start,
    sorted.filter (fun finding => finding.start = start) =
      findings.filter fun finding => finding.start = start

theorem start_le_trans (first second third : Finding)
    (le : decide (first.start ≤ second.start) = true)
    (leOn : decide (second.start ≤ third.start) = true) :
    decide (first.start ≤ third.start) = true :=
  decide_eq_true ((of_decide_eq_true le).trans (of_decide_eq_true leOn))

theorem start_le_total (first second : Finding) :
    (decide (first.start ≤ second.start) || decide (second.start ≤ first.start)) = true := by
  rw [Bool.or_eq_true, decide_eq_true_iff, decide_eq_true_iff]
  exact Nat.le_total _ _

theorem pairwise_sortByStart (findings : List Finding) :
    (sortByStart findings).Pairwise fun former latter => former.start ≤ latter.start :=
  (List.pairwise_mergeSort start_le_trans start_le_total findings).imp of_decide_eq_true

theorem filter_sortByStart (findings : List Finding) (start : Nat) :
    (sortByStart findings).filter (fun finding => finding.start = start) =
      findings.filter fun finding => finding.start = start := by
  have together : (findings.filter fun finding => finding.start = start).Pairwise
      fun former latter => decide (former.start ≤ latter.start) = true := by
    apply List.pairwise_of_forall_mem_list
    intro former memberFormer latter memberLatter
    have former_eq : former.start = start := by simpa using (List.mem_filter.mp memberFormer).2
    have latter_eq : latter.start = start := by simpa using (List.mem_filter.mp memberLatter).2
    exact decide_eq_true (former_eq.trans latter_eq.symm).le
  have kept := List.sublist_mergeSort start_le_trans start_le_total together List.filter_sublist
  have filtered := kept.filter fun finding => finding.start = start
  rw [List.filter_filter] at filtered
  simp only [Bool.and_self] at filtered
  symm
  apply filtered.eq_of_length
  exact (((List.mergeSort_perm findings _).filter _).length_eq).symm

/-- Findings in order stay where they are. -/
theorem sortByStart_of_pairwise
    (ordered : findings.Pairwise fun former latter => former.start ≤ latter.start) :
    sortByStart findings = findings :=
  List.mergeSort_of_pairwise (ordered.imp decide_eq_true)

theorem isStablySorted_sortByStart (findings : List Finding) :
    IsStablySorted findings (sortByStart findings) where
  perm := List.mergeSort_perm findings _
  ordered := pairwise_sortByStart findings
  stable := filter_sortByStart findings

theorem mem_of_filter_eq
    (alike : ∀ start, sorted.filter (fun finding => finding.start = start) =
      other.filter fun finding => finding.start = start)
    {finding : Finding} (member : finding ∈ sorted) : finding ∈ other := by
  have found : finding ∈ sorted.filter fun candidate => candidate.start = finding.start :=
    List.mem_filter.mpr ⟨member, decide_eq_true rfl⟩
  rw [alike] at found
  exact List.mem_of_mem_filter found

theorem start_le_of_mem {first finding : Finding} {later : List Finding}
    (ordered : (first :: later).Pairwise fun former latter => former.start ≤ latter.start)
    (member : finding ∈ first :: later) : first.start ≤ finding.start := by
  cases member with
  | head => exact le_refl _
  | tail _ member => exact List.rel_of_pairwise_cons ordered member

theorem eq_of_filter_eq
    (ordered : sorted.Pairwise fun former latter => former.start ≤ latter.start)
    (orderedToo : other.Pairwise fun former latter => former.start ≤ latter.start)
    (alike : ∀ start, sorted.filter (fun finding => finding.start = start) =
      other.filter fun finding => finding.start = start) :
    sorted = other := by
  induction sorted generalizing other with
  | nil =>
      cases other with
      | nil => rfl
      | cons first later =>
          have member : first ∈ [] :=
            mem_of_filter_eq (fun start => (alike start).symm) List.mem_cons_self
          cases member
  | cons first later induction =>
      cases other with
      | nil =>
          have member : first ∈ [] := mem_of_filter_eq alike List.mem_cons_self
          cases member
      | cons firstToo laterToo =>
          -- each list has the first finding of the other one, so the two start together
          have le : first.start ≤ firstToo.start :=
            start_le_of_mem ordered
              (mem_of_filter_eq (fun start => (alike start).symm) List.mem_cons_self)
          have ge : firstToo.start ≤ first.start :=
            start_le_of_mem orderedToo (mem_of_filter_eq alike List.mem_cons_self)
          have together := Nat.le_antisymm le ge
          have begins := alike first.start
          simp only [List.filter_cons, ← together, decide_true, if_true] at begins
          obtain ⟨rfl, -⟩ := List.cons.inj begins
          apply congrArg (first :: ·)
          apply induction ordered.of_cons orderedToo.of_cons
          intro start
          have behind := alike start
          rw [List.filter_cons, List.filter_cons] at behind
          split at behind
          case isTrue => exact (List.cons.inj behind).2
          case isFalse => exact behind

/-- There is one way to sort findings so that those that start together keep their order. -/
theorem IsStablySorted.unique (isSorted : IsStablySorted findings sorted)
    (isSortedToo : IsStablySorted findings other) : sorted = other := by
  apply eq_of_filter_eq isSorted.ordered isSortedToo.ordered
  intro start
  rw [isSorted.stable, isSortedToo.stable]

/-! ## Reports -/

/-- What the enabled rules of a list report that do not fail, rule by rule. -/
def reports (synthesizer : Option Synthesizer) (language : Language) (sentence : Sentence)
    (rules : List Rule) : List Finding :=
  ((rules.filter (·.enabled)).filterMap fun rule =>
    (rule.findings synthesizer language sentence).toOption).flatten

/-- The rule reports nothing in the sentence, as it is disabled or fails. -/
def IsSilent (synthesizer : Option Synthesizer) (language : Language) (sentence : Sentence)
    (rule : Rule) : Prop :=
  rule.enabled = false ∨ ∃ fault, rule.findings synthesizer language sentence = .error fault

section Reports

variable {synthesizer : Option Synthesizer} {language : Language} {sentence : Sentence}

theorem flatMap_findingsOf (rules : List Rule) :
    (rules.filter (·.enabled)).flatMap (findingsOf synthesizer language sentence) =
      reports synthesizer language sentence rules := by
  rw [reports]
  induction rules.filter (·.enabled) with
  | nil => rfl
  | cons rule later induction =>
      rw [List.flatMap_cons, induction, findingsOf]
      cases found : rule.findings synthesizer language sentence with
      | error fault => rw [List.filterMap_cons_none (by rw [found]; rfl), List.nil_append]
      | ok findings => rw [List.filterMap_cons_some (by rw [found]; rfl), List.flatten_cons]

theorem reports_perm {rules otherRules : List Rule} (perm : rules.Perm otherRules) :
    (reports synthesizer language sentence rules).Perm
      (reports synthesizer language sentence otherRules) :=
  ((perm.filter _).filterMap _).flatten

theorem reports_append (rules otherRules : List Rule) :
    reports synthesizer language sentence (rules ++ otherRules) =
      reports synthesizer language sentence rules ++
        reports synthesizer language sentence otherRules := by
  simp only [reports, List.filter_append, List.filterMap_append, List.flatten_append]

theorem reports_of_isSilent {rule : Rule}
    (silent : IsSilent synthesizer language sentence rule) (before after : List Rule) :
    reports synthesizer language sentence (before ++ rule :: after) =
      reports synthesizer language sentence (before ++ after) := by
  have nothing : reports synthesizer language sentence (rule :: after) =
      reports synthesizer language sentence after := by
    rw [reports, reports, List.filter_cons]
    split
    case isFalse => rfl
    case isTrue enabled =>
        cases silent with
        | inl disabled => cases enabled.symm.trans disabled
        | inr failed =>
            obtain ⟨fault, failed⟩ := failed
            rw [List.filterMap_cons_none (by rw [failed]; rfl)]
  rw [reports_append, reports_append, nothing]

theorem isStablySorted_analyze (rulebook : Rulebook) :
    IsStablySorted (reports synthesizer language sentence rulebook.rules)
      (rulebook.analyze synthesizer language sentence) := by
  rw [analyze, enabledRules, flatMap_findingsOf]
  exact isStablySorted_sortByStart _

end Reports

/-! ## Rulebooks -/

/--
A rulebook reports what its enabled rules report that do not fail, sorted by start so that findings
that start together keep the order of the rules.  The same rules in another order report the same
findings, and a rule that is disabled or fails may be inserted anywhere without any change.
-/
theorem analyze_isolates_rules (rulebook : Rulebook) (synthesizer : Option Synthesizer)
    (language : Language) (sentence : Sentence) :
    IsStablySorted (reports synthesizer language sentence rulebook.rules)
        (rulebook.analyze synthesizer language sentence) ∧
      (∀ other : Rulebook, rulebook.rules.Perm other.rules →
        (rulebook.analyze synthesizer language sentence).Perm
          (other.analyze synthesizer language sentence)) ∧
      ∀ before rule after, rulebook.rules = before ++ after →
        IsSilent synthesizer language sentence rule →
          analyze ⟨before ++ rule :: after⟩ synthesizer language sentence =
            rulebook.analyze synthesizer language sentence := by
  have isSorted (reporting : Rulebook) :
      IsStablySorted (reports synthesizer language sentence reporting.rules)
        (reporting.analyze synthesizer language sentence) :=
    isStablySorted_analyze reporting
  refine ⟨isSorted rulebook, ?_, ?_⟩
  · intro other perm
    calc rulebook.analyze synthesizer language sentence
      List.Perm _ (reports synthesizer language sentence rulebook.rules) := (isSorted rulebook).perm
      List.Perm _ (reports synthesizer language sentence other.rules) := reports_perm perm
      List.Perm _ (other.analyze synthesizer language sentence) := (isSorted other).perm.symm
  · intro before rule after rules_eq silent
    apply IsStablySorted.unique _ (isSorted rulebook)
    rw [rules_eq, ← reports_of_isSilent silent]
    exact isSorted ⟨before ++ rule :: after⟩

/-- A rule whose antipattern refers to itself fails, and its neighbour reports as if it were alone.
-/
theorem analyze_isolates_rules_of_failing_rule :
    ∃ failing working,
      { RuleSpec.named "FAILING" with
          slots := [.word "a"]
          antipatterns := [[{ SlotSpec.word "\\1" with
            reference := some (.ofSlot 1) }]] }.compile = .ok failing ∧
      { RuleSpec.named "WORKING" with slots := [.word "a"] }.compile = .ok working ∧
      IsSilent none (.plain "es" "Español") (.ofWords ["a"]) failing ∧
      analyze ⟨[failing, working]⟩ none (.plain "es" "Español") (.ofWords ["a"]) =
        [⟨"WORKING", 0, 1, 1, 2, 0, 1, "", "", []⟩] := by
  have failingMade : ∃ failing : Rule,
      { RuleSpec.named "FAILING" with
          slots := [.word "a"]
          antipatterns := [[{ SlotSpec.word "\\1" with
            reference := some (.ofSlot 1) }]] }.compile = .ok failing ∧
      failing.findings none (.plain "es" "Español") (.ofWords ["a"]) =
        .error (.reference 0 (.invalidBackReference 1)) := by
    apply Exists.intro
    refine ⟨?_, ?_⟩
    · simp only [RuleSpec.compile, RuleSpec.named, RuleSpec.templates, List.flatMap_cons,
        List.flatMap_nil, Rule.ofText_empty]
      rfl
    · simp only [Rule.findings, Rule.searchFindings, Rule.exempted, Rule.finding,
        Rule.ofText_empty, Query.occurrences, Sentence.length, Sentence.ofWords,
        Sentence.positionsOfWords, List.length_cons, List.length_nil, Nat.zero_add, Query.scan,
        Query.occurrenceAt?_eq_offers]
      decide +kernel
  have workingMade : ∃ working : Rule,
      { RuleSpec.named "WORKING" with slots := [.word "a"] }.compile = .ok working ∧
      analyze ⟨[working]⟩ none (.plain "es" "Español") (.ofWords ["a"]) =
        [⟨"WORKING", 0, 1, 1, 2, 0, 1, "", "", []⟩] := by
    apply Exists.intro
    refine ⟨?_, ?_⟩
    · simp only [RuleSpec.compile, RuleSpec.named, RuleSpec.templates, List.flatMap_cons,
        List.flatMap_nil, Rule.ofText_empty]
      rfl
    · simp only [analyze, enabledRules, findingsOf, List.flatMap_cons, List.flatMap_nil,
        List.filter_cons_of_pos, List.filter_nil, Rule.findings, Rule.searchFindings,
        Rule.exempted, Rule.finding, Rule.ofText_empty, Query.occurrences, Sentence.length,
        Sentence.ofWords, Sentence.positionsOfWords, List.length_cons, List.length_nil,
        Nat.zero_add, Query.scan, Query.occurrenceAt?_eq_offers]
      decide +kernel
  obtain ⟨failing, failing_eq, failed⟩ := failingMade
  obtain ⟨working, working_eq, analyzed⟩ := workingMade
  have silent : IsSilent none (.plain "es" "Español") (.ofWords ["a"]) failing :=
    Or.inr ⟨_, failed⟩
  have isolated := analyze_isolates_rules ⟨[working]⟩ none (.plain "es" "Español") (.ofWords ["a"])
  refine ⟨failing, working, failing_eq, working_eq, silent, ?_⟩
  exact (isolated.2.2 [] failing [working] rfl silent).trans analyzed

end PhraseRules.Rulebook
