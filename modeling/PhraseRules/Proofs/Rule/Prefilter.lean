import PhraseRules.Proofs.Search.Farthest
import PhraseRules.Proofs.Slot.Hints
import PhraseRules.Rule.Finding

/-!
# Sentences that are not searched

A sentence without the hints of a rule is not searched for it.  No occurrence is lost by that if
everything is heard by which the slots accept words.  In general, nothing is lost by the rules made
of some slots exactly if a sentence has the hints of every slot that can be filled in it.
-/

namespace PhraseRules

namespace Query

variable {query : Query} {sentence : Sentence} {start : Nat}

/-- In every occurrence a slot that cannot be left out is filled by a run that fits it. -/
theorem exists_fits_of_occurrenceAt? {occurrence : Occurrence} {slot : Slot}
    (found : query.occurrenceAt? sentence start = .ok (some occurrence))
    (member : slot ∈ query.slots) (required : slot.least ≠ 0)
    (noReference : slot.reference = none) :
    ∃ run, query.Fits sentence.positions slot run := by
  rcases meets_of_occurrenceAt? found with ⟨assignment, last, fills, -, -⟩
  rcases exists_mem_slotsFrom member with ⟨group, slotMember⟩
  rcases Outcome.exists_of_forall₂ fills.admitted slotMember with ⟨filling, -, admits⟩
  cases filling with
  | none => exact absurd (admits noReference) required
  | some run => exact ⟨run, admits noReference⟩

/-- A run that fits a slot holds a word that the slot accepts. -/
theorem Fits.exists_accepts {positions : List Position} {slot : Slot} {run : Run}
    (fits : query.Fits positions slot run) :
    ∃ position ∈ positions, slot.accepts position = true := by
  rcases fits.exists_first with ⟨position, standing, accepts⟩
  rw [Query.accepts, Bool.and_eq_true] at accepts
  exact ⟨position, List.mem_of_getElem? standing, accepts.2⟩

/-- A scan that meets no occurrence has no results. -/
theorem scan_eq_nil {α : Type} {visit : Occurrence → Except SearchError (Option α)}
    (nothing : ∀ start occurrence,
      query.occurrenceAt? sentence start ≠ .ok (some occurrence))
    {fuel : Nat} {results : List α}
    (scanned : query.scan sentence visit fuel start = .ok results) : results = [] := by
  induction fuel generalizing start with
  | zero => exact (Except.ok.inj scanned).symm
  | succ fuel induction =>
      rw [scan] at scanned
      split at scanned
      case isFalse => exact (Except.ok.inj scanned).symm
      case isTrue =>
          rcases Outcome.bind_eq_ok_iff.mp scanned with ⟨answer, answered, continued⟩
          cases answer with
          | none => exact induction continued
          | some occurrence => exact absurd answered (nothing start occurrence)

end Query

namespace Rule

variable {rule : Rule} {sentence : Sentence} {synthesizer : Option Synthesizer}
  {language : Language}

/-! ## Rules of one slot -/

/-- The rule with one slot and without texts. -/
def ofSlot (id : String) (slot : Slot) : Rule where
  id := id
  description := ""
  category := ""
  message := ""
  shortMessage := ""
  suggestions := []
  enabled := true
  renderings := []
  slots := [slot]
  antipatterns := []
  table := none

theorem ofText_empty : Template.ofText "" = ⟨[], []⟩ := by
  rw [Template.ofText, String.toList_empty, Template.read]
  rfl

/-- The description of one slot makes a rule. -/
theorem compile_ofSlot {spec : SlotSpec} {slot : Slot} (compiled : spec.compile = .ok slot)
    (noFilters : slot.filters = []) (noReference : slot.reference = none) (id : String) :
    { RuleSpec.named id with slots := [spec] }.compile = .ok (ofSlot id slot) := by
  have numbered : compileNumbered none 0 spec = .ok slot := by
    rw [compileNumbered, compileSlot, compiled, Outcome.ok_bind, noFilters, checkFeatures,
      Outcome.ok_bind, Outcome.ok_bind, checkReference, noReference]
    rfl
  rw [RuleSpec.compile]
  simp only [RuleSpec.named, RuleSpec.templates, compilePattern, compileEach, numbered,
    List.flatMap_cons, List.flatMap_nil, ofText_empty]
  rfl

/-- A rule of one slot occurs wherever a run fits the slot. -/
theorem exists_occurrenceAt?_ofSlot (id : String) {slot : Slot} {run : Run}
    (fits : ((ofSlot id slot).query synthesizer language [slot]).Fits sentence.positions slot run)
    (noReference : slot.reference = none) :
    ∃ occurrence,
      ((ofSlot id slot).query synthesizer language [slot]).occurrenceAt? sentence run.start =
        .ok (some occurrence) := by
  generalize query_eq : (ofSlot id slot).query synthesizer language [slot] = query at fits ⊢
  have slots_eq : query.slots = [slot] := by rw [← query_eq]; rfl
  have groups_eq : query.groups = [none] := by rw [← query_eq]; rfl
  have table_eq : query.table = none := by rw [← query_eq]; rfl
  have memorable : query.isMemorable = true := by
    simp [Query.isMemorable, slots_eq, groups_eq, noReference]
  have valid : Assignment.IsValid [some run] query sentence.positions run.start := by
    refine ⟨?_, rfl, .singleton _, ?_⟩
    · rw [slots_eq]
      exact .cons fits .nil
    · intro group member
      rw [groups_eq, List.mem_singleton] at member
      cases member
  have offers : ∃ met, query.offers sentence.positions run.start (query.slotsFrom 0) 0
      (Query.nodeAt run.start) = .ok met :=
    Query.exists_offers_eq_ok (Query.independent_slotsFrom memorable 0) 0 _
  rcases offers with ⟨met, offered⟩
  refine Query.exists_occurrenceAt?_of_isValid ?_ ?_ fits.start_lt_length valid offered
  · intro other member
    rw [slots_eq, List.mem_singleton] at member
    rw [member, noReference]
  · intro table impossible
    rw [table_eq] at impossible
    cases impossible

/-! ## Hints in a sentence -/

/-- The sentence has one of the forms or headwords that the hints of the slot list. -/
def hasHintsOf (sentence : Sentence) (slot : Slot) : Bool :=
  slot.formHints.all (hasForm sentence) && slot.headwordHints.all (hasHeadword sentence)

/-- A sentence may have occurrences if it has the hints of every slot. -/
theorem mayOccur_iff :
    rule.mayOccur sentence = true ↔ ∀ slot ∈ rule.slots, hasHintsOf sentence slot = true := by
  have forms (hints : Slot → Option (List String)) (has : List String → Bool) :
      (rule.slots.filterMap hints).all has = true ↔
        ∀ slot ∈ rule.slots, (hints slot).all has = true := by
    simp only [List.all_eq_true, List.mem_filterMap, Option.all_eq_true]
    constructor
    · intro all slot member listed hinted
      exact all listed ⟨slot, member, hinted⟩
    · rintro all listed ⟨slot, member, hinted⟩
      exact all slot member listed hinted
  rw [mayOccur, Bool.and_eq_true, formHints, headwordHints, forms, forms]
  simp only [hasHintsOf, Bool.and_eq_true, forall_and]

/-- A slot that can be left out or refers to another one asks nothing of a sentence. -/
theorem hasHintsOf_of_not_required {slot : Slot} (asks : slot.least = 0 ∨ slot.reference ≠ none) :
    hasHintsOf sentence slot = true := by
  have noHints (inflected : Bool) : slot.hints inflected = none := by
    cases hinted : slot.hints inflected with
    | none => rfl
    | some listed =>
        rcases Slot.hints_eq_some hinted with ⟨-, -, -, required, noReference, -⟩
        rcases asks with optional | refers
        · exact absurd optional required
        · exact absurd noReference refers
  rw [hasHintsOf, Slot.formHints, Slot.headwordHints, noHints, noHints]
  rfl

/-! ## Lost occurrences -/

/-- No occurrence in the sentence is lost by not searching it where hints are missing. -/
structure LosesNothing (rule : Rule) (sentence : Sentence) (synthesizer : Option Synthesizer)
    (language : Language) : Prop where
  occurrences : rule.mayOccur sentence = false → ∀ start occurrence,
    (rule.query synthesizer language rule.slots).occurrenceAt? sentence start ≠
      .ok (some occurrence)
  findings : ∀ found, rule.searchFindings synthesizer language sentence = .ok found →
    rule.findings synthesizer language sentence = .ok found

/-- The sentence has the hints of every slot of the rule that a run of words fits. -/
def HintsHold (rule : Rule) (sentence : Sentence) (synthesizer : Option Synthesizer)
    (language : Language) : Prop :=
  ∀ slot ∈ rule.slots, ∀ run,
    (rule.query synthesizer language rule.slots).Fits sentence.positions slot run →
      hasHintsOf sentence slot = true

/-- Nothing is lost if no occurrence is without hints. -/
theorem losesNothing_of_mayOccur
    (present : ∀ start occurrence,
      (rule.query synthesizer language rule.slots).occurrenceAt? sentence start =
        .ok (some occurrence) → rule.mayOccur sentence = true) :
    rule.LosesNothing sentence synthesizer language := by
  have nothing (missing : rule.mayOccur sentence = false) (start : Nat) (occurrence : Occurrence) :
      (rule.query synthesizer language rule.slots).occurrenceAt? sentence start ≠
        .ok (some occurrence) := by
    intro found
    have mayOccur := present start occurrence found
    rw [missing] at mayOccur
    cases mayOccur
  refine ⟨nothing, ?_⟩
  intro found searched
  rw [findings]
  cases missing : rule.mayOccur sentence with
  | true => exact searched
  | false =>
      rw [searchFindings] at searched
      rcases Outcome.bind_eq_ok_iff.mp searched with ⟨exempted, -, scanned⟩
      rw [Query.scan_eq_nil (nothing missing) scanned]
      rfl

/-- If hints hold for a rule, no rule that has only slots of it loses anything. -/
theorem losesNothing_of_hintsHold {other : Rule}
    (holds : rule.HintsHold sentence synthesizer language) (subset : other.slots ⊆ rule.slots) :
    other.LosesNothing sentence synthesizer language := by
  apply losesNothing_of_mayOccur
  intro start occurrence found
  rw [mayOccur_iff]
  intro slot member
  by_cases asks : slot.least = 0 ∨ slot.reference ≠ none
  · exact hasHintsOf_of_not_required asks
  · rw [not_or, not_not] at asks
    rcases Query.exists_fits_of_occurrenceAt? found member asks.1 asks.2 with ⟨run, fits⟩
    exact holds slot (subset member) run (fits.of_immunity rfl)

/-- If no rule of one slot loses anything, then hints hold. -/
theorem hintsHold_of_losesNothing
    (lossless : ∀ slot ∈ rule.slots, (ofSlot "" slot).LosesNothing sentence synthesizer language) :
    rule.HintsHold sentence synthesizer language := by
  intro slot member run fits
  cases noReference : slot.reference with
  | some _ => exact hasHintsOf_of_not_required (Or.inr (by simp [noReference]))
  | none =>
      rcases exists_occurrenceAt?_ofSlot "" (fits.of_immunity rfl) noReference with
        ⟨occurrence, found⟩
      cases missing : (ofSlot "" slot).mayOccur sentence with
      | true => exact mayOccur_iff.mp missing slot List.mem_cons_self
      | false =>
          exact absurd found ((lossless slot member).occurrences missing run.start occurrence)

/-! ## Rules that are heard -/

/--
Everything by which the slots of a rule accept the words of a sentence is heard when the hints are
made, and where a reading has one of the listed forms the word itself has one.
-/
structure IsHeard (rule : Rule) (sentence : Sentence) : Prop where
  heard : ∀ slot ∈ rule.slots, ∀ position ∈ sentence.positions, slot.accepts position = true →
    ∀ inflected, slot.Heard inflected position
  texts : ∀ slot ∈ rule.slots, ∀ forms, slot.formHints = some forms →
    ∀ position ∈ sentence.positions, ∀ reading ∈ position.readings,
      reading.text ∈ forms → position.text ∈ forms

/-- Hints hold for rules that are heard. -/
theorem IsHeard.hintsHold (heard : rule.IsHeard sentence) :
    rule.HintsHold sentence synthesizer language := by
  intro slot member run fits
  rcases fits.exists_accepts with ⟨position, standing, accepts⟩
  have hasHint (inflected : Bool) (listed : List String)
      (hinted : slot.hints inflected = some listed) : Slot.HasHint inflected position listed :=
    (heard.heard slot member position standing accepts inflected).hasHint hinted accepts
  rw [hasHintsOf, Bool.and_eq_true, Option.all_eq_true, Option.all_eq_true]
  constructor
  · intro forms hinted
    rcases hasHint false forms hinted with ⟨reading, readingMember, hint⟩
    rw [hasForm, List.any_eq_true]
    refine ⟨position, standing, List.contains_iff_mem.mpr ?_⟩
    exact heard.texts slot member forms hinted position standing reading readingMember hint
  · intro headwords hinted
    rcases hasHint true headwords hinted with ⟨reading, readingMember, hint⟩
    rw [hasHeadword, List.any_eq_true]
    refine ⟨position, standing, ?_⟩
    rw [List.any_eq_true]
    exact ⟨reading, readingMember, List.contains_iff_mem.mpr hint⟩

/--
A rule loses nothing in a sentence for which it is heard.  In general, hints hold exactly if no rule
made of the same slots loses anything.
-/
theorem losesNothing_of_isHeard_and_iff_hintsHold (rule : Rule) (sentence : Sentence)
    (synthesizer : Option Synthesizer) (language : Language) :
    (rule.IsHeard sentence → rule.LosesNothing sentence synthesizer language) ∧
      ((∀ other : Rule, other.slots ⊆ rule.slots →
          other.LosesNothing sentence synthesizer language) ↔
        rule.HintsHold sentence synthesizer language) := by
  constructor
  · intro heard
    exact losesNothing_of_hintsHold heard.hintsHold (List.Subset.refl _)
  · constructor
    · intro lossless
      apply hintsHold_of_losesNothing
      intro slot member
      apply lossless
      intro other otherMember
      rw [List.mem_singleton.mp otherMember]
      exact member
    · intro holds other subset
      exact losesNothing_of_hintsHold holds subset

/-- Two alternatives are heard, and the second one is found. -/
theorem losesNothing_of_isHeard_of_contraction :
    ∃ rule,
      { RuleSpec.named "R" with
          slots := [{ SlotSpec.word "de" with caseSensitive := true }.or
            { SlotSpec.word "del" with caseSensitive := true }] }.compile = .ok rule ∧
      rule.IsHeard (.ofWords ["la", "del"]) ∧
      rule.LosesNothing (.ofWords ["la", "del"]) none (.plain "es" "Español") ∧
      rule.HintsHold (.ofWords ["la", "del"]) none (.plain "es" "Español") ∧
      rule.mayOccur (.ofWords ["la", "del"]) = true ∧
      rule.findings none (.plain "es" "Español") (.ofWords ["la", "del"]) =
        .ok [⟨"R", 3, 6, 2, 3, 3, 6, "", "", []⟩] := by
  refine ⟨ofSlot "R" _, compile_ofSlot rfl rfl rfl "R", ?_⟩
  generalize rule_eq : ofSlot "R" _ = rule
  have heard : rule.IsHeard (.ofWords ["la", "del"]) := by
    subst rule_eq
    constructor
    · intro slot member position _ _ inflected
      rw [ofSlot, List.mem_singleton] at member
      subst member
      cases inflected with
      | false =>
          refine .united rfl fun alternative alternativeMember => ?_
          rw [List.mem_singleton] at alternativeMember
          subst alternativeMember
          exact .united rfl fun _ impossible => absurd impossible List.not_mem_nil
      | true => exact .unlisted rfl
    · intro slot member forms hinted
      rw [ofSlot, List.mem_singleton] at member
      subst member
      obtain rfl : forms = ["de", "del"] := Option.some.inj (hinted.symm.trans (by decide +kernel))
      decide +kernel
  have searched :
      rule.searchFindings none (.plain "es" "Español") (.ofWords ["la", "del"]) =
        .ok [⟨"R", 3, 6, 2, 3, 3, 6, "", "", []⟩] := by
    subst rule_eq
    simp only [searchFindings, finding, ofSlot, ofText_empty, Sentence.length, Sentence.ofWords,
      Sentence.positionsOfWords, List.length_cons, List.length_nil, Nat.zero_add, Query.scan,
      Query.occurrenceAt?_eq_offers]
    decide +kernel
  have mayOccur : rule.mayOccur (.ofWords ["la", "del"]) = true := by
    subst rule_eq
    decide +kernel
  rcases losesNothing_of_isHeard_and_iff_hintsHold rule (.ofWords ["la", "del"]) none
    (.plain "es" "Español") with ⟨losesNothing, -⟩
  exact ⟨heard, losesNothing heard, heard.hintsHold, mayOccur,
    (losesNothing heard).findings _ searched⟩

/-- An alternative beside a conjunct is not heard, and what it finds is lost. -/
theorem not_losesNothing_of_alternative_beside_conjunct :
    ∃ rule finding,
      { RuleSpec.named "R" with
          slots := [({ SlotSpec.word "a" with caseSensitive := true }.and .anyWord).or
            { SlotSpec.word "b" with caseSensitive := true }] }.compile = .ok rule ∧
      rule.mayOccur (.ofWords ["b"]) = false ∧
      (rule.query none (.plain "es" "Español") rule.slots).occurrenceAt? (.ofWords ["b"]) 1 =
        .ok (some ⟨1, 2, [⟨0, 1, [0]⟩]⟩) ∧
      rule.searchFindings none (.plain "es" "Español") (.ofWords ["b"]) = .ok [finding] ∧
      rule.findings none (.plain "es" "Español") (.ofWords ["b"]) = .ok [] := by
  refine ⟨ofSlot "R" _, ⟨"R", 0, 1, 1, 2, 0, 1, "", "", []⟩, compile_ofSlot rfl rfl rfl "R",
    by decide +kernel, ?_, ?_, by decide +kernel⟩
  · rw [Query.occurrenceAt?_eq_offers]
    decide +kernel
  · simp only [searchFindings, finding, ofSlot, ofText_empty, Sentence.length, Sentence.ofWords,
      Sentence.positionsOfWords, List.length_cons, List.length_nil, Nat.zero_add, Query.scan,
      Query.occurrenceAt?_eq_offers]
    decide +kernel

/-- A reading may have a listed form that is not the text of the word. -/
example :
    ∃ slot, { SlotSpec.word "del" with caseSensitive := true }.compile = .ok slot ∧
      let position := (Position.ofWord "Del" 0).addReading (.tagged "del" "de" "P")
      slot.accepts position = true ∧ slot.formHints = some ["del"] ∧ position.text ∉ ["del"] :=
  ⟨_, rfl, by decide +kernel⟩

end Rule

end PhraseRules
