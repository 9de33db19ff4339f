import PhraseRules.Proofs.Matcher.Filled
import PhraseRules.Proofs.Rule.Compiled
import PhraseRules.Proofs.Search.Mark
import PhraseRules.Proofs.Search.Reference

/-!
# Slots made ready by references

A slot whose literal text holds a reference is made like any other, and before it is filled the
forms of the word meant take the place of the reference.  What comes out accepts the text before the
reference, one of the forms and the text behind it.  A regular expression with a reference is
another matter: its matcher is made when the rule is, with the reference still in it, and there are
no references in expressions.
-/

namespace PhraseRules

open PhraseRules.Outcome
open PhraseRules.Regex

/-! ## Making slots of literal texts -/

/-- The slot with another condition on the text and another reference. -/
def Slot.asking (slot : Slot) (text : Matcher) (reference : Option Rendering) : Slot :=
  { slot with criterion := { slot.criterion with text }, reference }

theorem Slot.filters_asking (slot : Slot) (text : Matcher) (reference : Option Rendering) :
    (slot.asking text reference).filters = slot.filters := by
  cases slot
  rw [asking, filters, filters]

theorem Slot.withText_eq (slot : Slot) (pattern : String) (isRegex : Bool) :
    slot.withText pattern isRegex =
      (Matcher.compile pattern isRegex slot.criterion.text.caseSensitive).map
        fun text => slot.asking text none := by
  rw [withText]
  cases Matcher.compile pattern isRegex slot.criterion.text.caseSensitive with
  | error fault => rfl
  | ok text => rfl

namespace SlotSpec

/-- The description without its text. -/
def withoutText (spec : SlotSpec) : SlotSpec :=
  { spec with text := "", reference := none }

/-- What a description with a literal text asks for, given what it asks for without the text. -/
def addText (spec : SlotSpec) (slot : Slot) : Slot :=
  slot.asking (.literal (Text.trim spec.text) spec.caseSensitive) spec.reference

variable {spec : SlotSpec}

/-- The text of a slot that is taken literally cannot be wrong. -/
theorem compile_eq_of_literal (literal : spec.isRegex = false) :
    spec.compile = spec.withoutText.compile.map spec.addText := by
  cases spec with
  | mk text isRegex caseSensitive inflected negated tag tagIsRegex tagNegated chunk chunkIsRegex
      spaceBefore least most skip marked exceptions conjuncts alternatives agreement neutral
      reference =>
      obtain rfl : isRegex = false := literal
      rw [withoutText, compile, compile, Matcher.compile, Matcher.compile,
        if_neg Bool.false_ne_true, if_neg Bool.false_ne_true, ok_bind, ok_bind]
      simp only [map_bind, map_ok]
      rfl

/-- A literal text with a reference to an earlier slot is no obstacle to a slot either. -/
theorem compileNumbered_eq_of_literal (literal : spec.isRegex = false) {reference : Rendering}
    (refers : spec.reference = some reference) {index : Nat}
    (earlier : ¬Query.IsMisplaced reference index) (table : Option FeatureTable) :
    compileNumbered table index spec =
      (compileNumbered table index spec.withoutText).map spec.addText := by
  rw [compileNumbered, compileNumbered, compileSlot, compileSlot, compile_eq_of_literal literal]
  cases made : spec.withoutText.compile with
  | error fault => rfl
  | ok slot =>
      have unreferring : slot.reference = none := (reference_eq_of_compile made).1
      have filters_eq : (spec.addText slot).filters = slot.filters := Slot.filters_asking ..
      have referring : (spec.addText slot).reference = some reference := refers
      have placed : checkReference index (spec.addText slot) = .ok () := by
        rw [checkReference, referring]
        exact if_neg earlier
      have unplaced : checkReference index slot = .ok () := by
        rw [checkReference, unreferring]
      rw [map_ok, ok_bind, ok_bind, filters_eq]
      cases checkFeatures table slot.filters with
      | error fault => rfl
      | ok _ =>
          rw [ok_bind, ok_bind, ok_bind, ok_bind, placed, unplaced]
          rfl

end SlotSpec

/-! ## Making slots ready -/

namespace Query

variable {query : Query} {index : Nat} {slot : Slot} {reference : Rendering}
  {positions : List Position} {bindings : List Binding} {binding : Binding} {forms : List String}

/-- A slot that refers to a bound one is made ready by compiling its text with the forms in it. -/
theorem resolve_eq_of_bound (refers : slot.reference = some reference)
    (earlier : ¬IsMisplaced reference index)
    (bound : bindings.find? (·.slot == reference.slot - 1) = some binding)
    (rendered : query.referenceTexts reference positions binding = .ok forms)
    (nonempty : forms ≠ []) :
    query.resolve index slot positions bindings =
      ((Matcher.compile (slot.filledText reference forms) true
        slot.criterion.text.caseSensitive).map fun text => some (slot.asking text none)).mapError
          (.reference index) := by
  have notEmpty : forms.isEmpty = false := by simpa using nonempty
  have wellPlaced : ¬(reference.slot = 0 ∨ index < reference.slot) := earlier
  rw [resolve, refers]
  dsimp only
  rw [if_neg wellPlaced, bound]
  dsimp only
  rw [rendered, ok_bind, notEmpty, if_neg Bool.false_ne_true, Slot.withText_eq, Slot.filledText]
  cases Matcher.compile (fillReferences slot.criterion.text reference.slot
      (expressionOfForms forms)) true slot.criterion.text.caseSensitive with
  | error fault => rfl
  | ok text => rfl

end Query

/-- The filled text of a slot with one reference has the forms between the stretches beside it. -/
theorem Slot.filledText_eq {slot : Slot} {reference : Rendering} {before after : String}
    {caseSensitive : Bool}
    (text_eq : slot.criterion.text =
      .literal (before ++ referenceMark reference.slot ++ after) caseSensitive)
    (lacksBefore : ¬RefersTo before reference.slot) (lacksAfter : ¬RefersTo after reference.slot)
    (forms : List String) :
    slot.filledText reference forms =
      Regex.escape before ++ expressionOfForms forms ++ Regex.escape after := by
  rw [filledText, fillReferences, text_eq]
  change (expressionOfForms forms).intercalate ((stretchesBetween (referenceMark reference.slot)
    (before ++ referenceMark reference.slot ++ after)).map Regex.escape) = _
  rw [stretchesBetween_referenceMark lacksBefore lacksAfter]
  rfl

/--
A slot with a literal text that refers once to an earlier slot is made just if it is made without
its text.  When the slot meant is bound and its word has forms, the slot is made ready with a
matcher that accepts the text before the reference, one of the forms and the text behind it, as its
case mode compares them.  More forms than a matcher lists are the one exception.  They are compared
character by character, which comes to the same where case counts or the texts agree in case, and
they may be too large for an expression.
-/
theorem SlotSpec.resolve_fills_literal {spec : SlotSpec} (literal : spec.isRegex = false)
    {reference : Rendering} (refers : spec.reference = some reference) {index : Nat}
    (counted : 0 < reference.slot) (earlier : reference.slot ≤ index) {before after : String}
    (text_eq : Text.trim spec.text = before ++ referenceMark reference.slot ++ after)
    (lacksBefore : ¬RefersTo before reference.slot) (lacksAfter : ¬RefersTo after reference.slot)
    (table : Option FeatureTable) :
    compileNumbered table index spec =
        (compileNumbered table index spec.withoutText).map spec.addText ∧
      ∀ slot, compileNumbered table index spec = .ok slot →
        ∀ (query : Query) (positions : List Position) (bindings : List Binding) binding forms,
          bindings.find? (·.slot == reference.slot - 1) = some binding →
          query.referenceTexts reference positions binding = .ok forms → forms ≠ [] →
          (∃ matcher : Matcher,
            query.resolve index slot positions bindings =
                .ok (some (slot.asking matcher none)) ∧
              matcher.AcceptsFormsBetween spec.caseSensitive before after forms) ∨
            Matcher.greatestValueCount < forms.length ∧
              query.resolve index slot positions bindings =
                .error (.reference index
                  (.invalidRegex (slot.filledText reference forms) .tooLarge)) := by
  have wellPlaced : ¬Query.IsMisplaced reference index := by
    rintro (zero | later)
    · exact Nat.ne_of_gt counted zero
    · exact Nat.not_lt_of_le earlier later
  have made_eq := compileNumbered_eq_of_literal literal refers wellPlaced table
  refine ⟨made_eq, ?_⟩
  intro slot made query positions bindings binding forms bound rendered nonempty
  obtain ⟨bare, rfl⟩ : ∃ bare, slot = spec.addText bare := by
    rw [made_eq] at made
    rcases map_eq_ok_iff.mp made with ⟨bare, -, rfl⟩
    exact ⟨bare, rfl⟩
  have ownText : (spec.addText bare).criterion.text =
      .literal (before ++ referenceMark reference.slot ++ after) spec.caseSensitive := by
    rw [← text_eq]
    rfl
  have filled_eq := Slot.filledText_eq ownText lacksBefore lacksAfter forms
  have sensitive_eq : (spec.addText bare).criterion.text.caseSensitive = spec.caseSensitive := rfl
  rw [Query.resolve_eq_of_bound refers wellPlaced bound rendered nonempty, filled_eq, sensitive_eq]
  rcases Matcher.compile_filled nonempty before after spec.caseSensitive with
    ⟨matcher, matcher_eq, accepts⟩ | ⟨many, large⟩
  · rw [matcher_eq]
    exact Or.inl ⟨matcher, rfl, accepts⟩
  · rw [large]
    exact Or.inr ⟨many, rfl⟩

/-- A word with characters that have a meaning in expressions, put between two others. -/
theorem SlotSpec.resolve_fills_literal_of_metacharacters :
    ∃ (slot : Slot) (matcher : Matcher),
      compileNumbered none 1 { word "¿\\1?" with reference := some (.ofSlot 1) } = .ok slot ∧
        Query.resolve ⟨[], none, none, .plain "es" "Español", .respected⟩ 1 slot
          [.ofWord "c++" 0] [⟨0, 0, []⟩] = .ok (some (slot.asking matcher none)) ∧
        ∀ text, matcher.accepts text = true ↔
          Text.lowercase "¿c++?" = Text.lowercase text := by
  generalize spec_eq : { word "¿\\1?" with reference := some (Rendering.ofSlot 1) } = spec
  have literal : spec.isRegex = false := by
    rw [← spec_eq]
    rfl
  have refers : spec.reference = some (.ofSlot 1) := by
    rw [← spec_eq]
  have text_eq : Text.trim spec.text = "¿" ++ referenceMark 1 ++ "?" := by
    rw [← spec_eq]
    decide +kernel
  have lacks : ¬RefersTo "¿" 1 ∧ ¬RefersTo "?" 1 := by decide +kernel
  have rendered : Query.referenceTexts ⟨[], none, none, .plain "es" "Español", .respected⟩
      (.ofSlot 1) [.ofWord "c++" 0] ⟨0, 0, []⟩ = .ok ["c++"] := by
    decide +kernel
  rcases SlotSpec.resolve_fills_literal literal refers (by decide) (le_refl 1) text_eq lacks.1
    lacks.2 none with ⟨-, fills⟩
  cases made : compileNumbered none 1 spec with
  | error fault =>
      have succeeds : (compileNumbered none 1 spec).isOk = true := by
        rw [← spec_eq]
        decide +kernel
      rw [made] at succeeds
      cases succeeds
  | ok slot =>
      rcases fills slot made _ _ [⟨0, 0, []⟩] _ _ rfl rendered (List.cons_ne_nil _ _) with
        ⟨matcher, filled, accepts⟩ | ⟨many, -⟩
      · refine ⟨slot, matcher, rfl, filled, fun text => ?_⟩
        have accepts_iff := accepts text (Or.inr (Or.inl (by decide)))
        have insensitive : spec.caseSensitive = false := by
          rw [← spec_eq]
          rfl
        rw [insensitive] at accepts_iff
        simpa [Matcher.IsSameText] using accepts_iff
      · exact absurd many (by decide)

/-! ## References in expressions -/

namespace Matcher

theorem readStep_of_isDigit {items : List Ast} {c : Char} {rest : List Char}
    (isDigit : c.isDigit = true) :
    readStep false items ('\\' :: c :: rest) = .error .unsupportedBackReference := by
  change (readEscape false (c :: rest) >>= _) = _
  rw [readEscape.eq_def]
  dsimp only
  rw [if_pos isDigit]
  rfl

/-- No expression has a reference behind literal text. -/
theorem exists_compile_eq_error_of_reference (literal rest : String) (slot : Nat)
    (caseSensitive : Bool) :
    ∃ cause, compile (Regex.escape literal ++ referenceMark slot ++ rest) true caseSensitive =
      .error (.invalidRegex (Regex.escape literal ++ referenceMark slot ++ rest) cause) := by
  rcases exists_toList_referenceMark_eq slot with ⟨digit, later, mark_eq, isDigit⟩
  have toList_eq : (Regex.escape literal ++ referenceMark slot ++ rest).toList =
      (Regex.escape literal).toList ++ '\\' :: digit :: (later ++ rest.toList) := by
    rw [String.toList_append, String.toList_append, mark_eq, List.append_assoc]
    rfl
  generalize Regex.escape literal ++ referenceMark slot ++ rest = pattern at toList_eq ⊢
  have nonempty : pattern ≠ "" := by
    rintro rfl
    simp at toList_eq
  have unlisted : expand? pattern = none := by
    rw [expand?, toList_eq]
    rcases exists_readValues_escape [] [[]] (Nat.lt_succ_self _) with ⟨left, -, readOn⟩
    rw [readOn, readValues_escaped, isPlainEscape_of_isDigit isDigit, if_neg Bool.false_ne_true]
    rfl
  rw [compile_eq_of_expand?_eq_none nonempty unlisted]
  cases regex_eq : Regex.compile (anchored pattern caseSensitive) with
  | error cause => exact ⟨cause, rfl⟩
  | ok regex =>
      rcases bind_eq_ok_iff.mp regex_eq with ⟨ast, parsed, -⟩
      rcases readsInside_anchored_iff.mp (readsInside_of_parse_eq_ok parsed).1 with
        ⟨body, between, reads, -⟩
      rw [toList_eq, List.append_assoc] at reads
      exact absurd (readsInside_escape_iff.mp reads)
        (not_readsInside_of_readStep (readStep_of_isDigit isDigit))

end Matcher

/-- A regular expression with a reference behind literal text makes no slot. -/
theorem SlotSpec.exists_compile_eq_error_of_reference {spec : SlotSpec}
    (isRegex : spec.isRegex = true) {literal rest : String} {number : Nat}
    (text_eq : Text.trim spec.text = Regex.escape literal ++ referenceMark number ++ rest) :
    ∃ cause, spec.compile = .error (.invalidRegex (Text.trim spec.text) cause) := by
  rw [text_eq]
  rcases Matcher.exists_compile_eq_error_of_reference literal rest number spec.caseSensitive with
    ⟨cause, failed⟩
  refine ⟨cause, ?_⟩
  cases spec
  cases isRegex
  rw [compile, text_eq, failed]
  rfl

/-- The shortest expression with a reference: the empty text on both sides of it is an expression,
and would make a slot by itself. -/
theorem SlotSpec.compileNumbered_regex_of_reference :
    "\\1" = "" ++ referenceMark 1 ++ "" ∧ (Matcher.compile "" true true).isOk = true ∧
      compileNumbered none 1
          { regex "\\1" with caseSensitive := true, reference := some (.ofSlot 1) } =
        .error (.invalidRegex "\\1" .unsupportedBackReference) := by
  refine ⟨by decide +kernel, by decide +kernel, ?_⟩
  have failed : Matcher.compile (Text.trim "\\1") true true =
      .error (.invalidRegex "\\1" .unsupportedBackReference) := by
    decide +kernel
  rw [compileNumbered, compileSlot, regex, anyWord, compile, failed]
  rfl

end PhraseRules
