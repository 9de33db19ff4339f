import PhraseRules.Disambiguation
import PhraseRules.Proofs.Rule.Reference
import PhraseRules.Proofs.Search.Failure

/-!
# Failures of disambiguation

A disambiguation rule asks no synthesizer, so a word that it refers to has exactly one form.  With
one form in place of its references a literal text always makes a matcher, and an expression that
does not hold the reference stays as it was compiled.  What is left to fail is an expression that
does hold the reference, as `\\1` does when the reference is to the first slot: with the form in it
it need not be an expression.  Rules without such an expression never fail
(`disambiguate_fails_only_where_expressions_refer`).
-/

namespace PhraseRules

open PhraseRules.Outcome

/-! ## Forms without a synthesizer -/

namespace Rendering

variable (rendering : Rendering)

theorem exists_heads_eq_singleton (surface : String) (readings : List Reading) :
    ∃ head, rendering.heads none surface readings = .ok [head] := by
  by_cases follows : rendering.extent = .following
  · exact ⟨surface, heads_of_following follows⟩
  · cases tag_eq : rendering.tag with
    | none => exact ⟨_, heads_of_untagged follows tag_eq⟩
    | some target => exact ⟨surface, heads_of_unanswered tag_eq⟩

/-- Without a synthesizer a word is rendered as one text. -/
theorem exists_texts_eq_singleton (language : Language) (position : Position)
    (bound : List Reading) (following : List Position) :
    ∃ text, rendering.texts none language position bound following = .ok [text] := by
  obtain ⟨head, head_eq⟩ := rendering.exists_heads_eq_singleton
    (rendering.surface position.text) (readingsFor position bound)
  rw [texts_eq, head_eq]
  exact ⟨_, rfl⟩

end Rendering

/-! ## Slots -/

/-- The text of the slot is an expression that holds the reference, so that forms are written into
the expression. -/
def Slot.RewritesExpression (slot : Slot) (reference : Rendering) : Prop :=
  slot.criterion.text.isRegex = true ∧ RefersTo slot.criterion.text.pattern reference.slot

/-- With one form in place of the references a text is compiled, unless it is an expression that
holds them. -/
theorem Slot.exists_compile_filledText {table : Option FeatureTable} {spec : SlotSpec} {slot : Slot}
    (compiled : compileSlot table spec = .ok slot) {reference : Rendering}
    (keeps : ¬slot.RewritesExpression reference) (form : String) :
    ∃ matcher, Matcher.compile (slot.filledText reference [form]) true
      slot.criterion.text.caseSensitive = .ok matcher := by
  cases isRegex : slot.criterion.text.isRegex with
  | false => exact Matcher.exists_compile_fillReferences isRegex reference.slot form _
  | true =>
      have lacks : ¬RefersTo slot.criterion.text.pattern reference.slot :=
        fun refers => keeps ⟨isRegex, refers⟩
      have made := (SlotSpec.text_of_compile (compile_of_compileSlot compiled)).1
      obtain ⟨pattern_eq, isRegex_eq, caseSensitive_eq⟩ := Matcher.made_from_of_compile made
      rw [← pattern_eq, ← isRegex_eq, ← caseSensitive_eq, isRegex] at made
      rw [filledText, fillReferences_eq_pattern isRegex lacks]
      exact ⟨_, made⟩

namespace Query

variable {query : Query} {index : Nat} {slot : Slot} {reference : Rendering}
  {positions : List Position} {bindings : List Binding} {fault : SearchError}

theorem exists_referenceTexts_eq_singleton (unaided : query.synthesizer = none)
    (reference : Rendering) (positions : List Position) (binding : Binding) :
    ∃ form, query.referenceTexts reference positions binding = .ok [form] := by
  obtain ⟨form, form_eq⟩ := reference.exists_texts_eq_singleton query.language
    (positions[binding.position]?.getD default)
    (binding.readings.filterMap ((positions[binding.position]?.getD default).readings[·]?)) []
  rw [referenceTexts, unaided, form_eq]
  exact ⟨form, rfl⟩

/-- A compiled slot of a query without a synthesizer cannot be made ready only if a form that is
written into its expression makes it none. -/
theorem exists_malformed_of_resolve (unaided : query.synthesizer = none)
    {table : Option FeatureTable} {spec : SlotSpec}
    (compiled : compileNumbered table index spec = .ok slot)
    (failed : query.resolve index slot positions bindings = .error fault) :
    ∃ reference form cause, slot.reference = some reference ∧
      slot.RewritesExpression reference ∧ slot.IsMalformedWith reference [form] cause ∧
        fault = .reference index (.invalidRegex (slot.filledText reference [form]) cause) := by
  cases refers : slot.reference with
  | none =>
      rw [resolve, refers] at failed
      cases failed
  | some reference =>
      have earlier : ¬(reference.slot = 0 ∨ index < reference.slot) :=
        reference_le_of_compileNumbered compiled refers
      cases bound : bindings.find? (·.slot == reference.slot - 1) with
      | none =>
          rw [resolve, refers] at failed
          dsimp only at failed
          rw [if_neg earlier, bound] at failed
          cases failed
      | some binding =>
          obtain ⟨form, rendered⟩ :=
            exists_referenceTexts_eq_singleton unaided reference positions binding
          have nonempty : [form] ≠ [] := List.cons_ne_nil form []
          rw [resolve_eq_of_bound refers earlier bound rendered nonempty] at failed
          obtain ⟨cause, refused, rfl⟩ := mapError_eq_error_iff.mp failed
          have refused := map_eq_error_iff.mp refused
          obtain ⟨cause, malformed, rfl⟩ := Matcher.exists_of_compile_eq_error refused
          refine ⟨reference, form, cause, rfl, ?_, malformed, rfl⟩
          by_contra keeps
          obtain ⟨matcher, made⟩ := Slot.exists_compile_filledText
            (compileSlot_of_compileNumbered compiled) keeps form
          cases made.symm.trans refused

end Query

/-! ## Rules -/

namespace DisambiguationRule

variable {id : String} {pattern : List SlotSpec} {action : DisambiguationAction}
  {table : Option FeatureTable} {rule : DisambiguationRule} {language : Language}
  {sentence : Sentence} {fault : SearchError}

/-- The failures that compiling a disambiguation rule leaves possible: a form that is written into
the expression of a slot makes it no expression. -/
inductive CanFailWith (rule : DisambiguationRule) : SearchError → Prop where
  | malformed {index : Nat} {slot : Slot} {reference : Rendering} {form : String}
      {cause : Regex.Fault} : rule.slots[index]? = some slot → slot.reference = some reference →
      slot.RewritesExpression reference → slot.IsMalformedWith reference [form] cause →
        CanFailWith rule
          (.reference index (.invalidRegex (slot.filledText reference [form]) cause))

/-- The rule is one that compiling gives. -/
def IsCompiled (rule : DisambiguationRule) : Prop :=
  ∃ id pattern action table, compile id pattern action table = .ok rule

/-- No expression of the rule holds a reference. -/
def KeepsExpressions (rule : DisambiguationRule) : Prop :=
  ∀ slot ∈ rule.slots, ∀ reference, slot.reference = some reference →
    ¬slot.RewritesExpression reference

theorem slots_eq_of_compile (compiled : compile id pattern action table = .ok rule) :
    compilePattern id table pattern = .ok rule.slots ∧ rule.table = table := by
  rw [compile] at compiled
  split at compiled
  case isTrue => cases compiled
  case isFalse =>
      obtain ⟨slots, slots_eq, equal⟩ := bind_eq_ok_iff.mp compiled
      cases equal
      exact ⟨slots_eq, rfl⟩

theorem canFailWith_of_failsAt (isCompiled : rule.IsCompiled)
    {positions : List Position} {index : Nat} {slot : Slot}
    (standing : rule.slots[index]? = some slot)
    (fails : (rule.query language).FailsAt positions index slot fault) :
    rule.CanFailWith fault := by
  obtain ⟨id, pattern, action, table, compiled⟩ := isCompiled
  obtain ⟨slots_eq, rfl⟩ := slots_eq_of_compile compiled
  obtain ⟨bindings, failed⟩ := fails.exists_resolve_eq_error <| by
    intro number member agreement found asks
    obtain ⟨spec, -, made⟩ := exists_compileNumbered slots_eq found
    exact resolves_of_compileSlot (compileSlot_of_compileNumbered made) asks
  obtain ⟨spec, -, made⟩ := exists_compileNumbered slots_eq standing
  obtain ⟨reference, form, cause, refers, rewrites, malformed, rfl⟩ :=
    Query.exists_malformed_of_resolve rfl made failed
  exact .malformed standing refers rewrites malformed

theorem canFailWith_of_apply (isCompiled : rule.IsCompiled)
    (failed : rule.apply language sentence = .error fault) : rule.CanFailWith fault := by
  rcases bind_eq_error_iff.mp failed with failed | ⟨found, -, impossible⟩
  · obtain ⟨index, slot, standing, fails⟩ := Query.exists_failsAt_of_occurrences failed
    exact canFailWith_of_failsAt isCompiled standing fails
  · cases impossible

theorem KeepsExpressions.not_canFailWith (keeps : rule.KeepsExpressions) (fault : SearchError) :
    ¬rule.CanFailWith fault := by
  intro canFail
  cases canFail with
  | malformed standing refers rewrites malformed =>
      exact keeps _ (List.mem_of_getElem? standing) _ refers rewrites

end DisambiguationRule

open DisambiguationRule

/--
A compiled rule fails in a sentence only where a form is written into an expression that holds the
reference and leaves no expression: never in the features of an agreement, never by a misplaced
reference, and never in a literal text.  A list of rules fails only so, too.  If no expression of
the rules holds a reference, then every rule, and the list of them, gives a sentence.
-/
theorem disambiguate_fails_only_where_expressions_refer {rules : List DisambiguationRule}
    (compiled : ∀ rule ∈ rules, rule.IsCompiled) (language : Language) (sentence : Sentence) :
    (∀ rule ∈ rules, ∀ fault, rule.apply language sentence = .error fault →
      rule.CanFailWith fault) ∧
    (∀ fault, disambiguate rules language sentence = .error fault →
      ∃ rule ∈ rules, rule.CanFailWith fault) ∧
    ((∀ rule ∈ rules, rule.KeepsExpressions) →
      (∀ rule ∈ rules, ∃ result, rule.apply language sentence = .ok result) ∧
        ∃ result, disambiguate rules language sentence = .ok result) := by
  have one : ∀ rule ∈ rules, ∀ fault, rule.apply language sentence = .error fault →
      rule.CanFailWith fault :=
    fun rule member _ failed => canFailWith_of_apply (compiled rule member) failed
  have all : ∀ fault, disambiguate rules language sentence = .error fault →
      ∃ rule ∈ rules, rule.CanFailWith fault := by
    intro fault failed
    obtain ⟨current, rule, member, failed⟩ := exists_of_foldlM_eq_error failed
    exact ⟨rule, member, canFailWith_of_apply (compiled rule member) failed⟩
  refine ⟨one, all, fun keeps => ⟨fun rule member => ?_, ?_⟩⟩
  · apply exists_eq_ok_of_not_error
    exact fun fault failed =>
      (keeps rule member).not_canFailWith fault (one rule member fault failed)
  · apply exists_eq_ok_of_not_error
    intro fault failed
    obtain ⟨rule, member, canFail⟩ := all fault failed
    exact (keeps rule member).not_canFailWith fault canFail

/-- A word behind the same word: the literal text that refers to it is compiled with each form. -/
theorem disambiguate_fails_only_where_expressions_refer_of_repeated_word :
    ∃ rule,
      compile "D" [.word "la", { SlotSpec.word "\\1" with reference := some (.ofSlot 1) }] .immunize
          none = .ok rule ∧
        ∃ result, disambiguate [rule] (.plain "es" "Español") (.ofWords ["la", "la"]) =
          .ok result := by
  obtain ⟨rule, compiled, literal⟩ : ∃ rule,
      compile "D" [.word "la", { SlotSpec.word "\\1" with reference := some (.ofSlot 1) }] .immunize
          none = .ok rule ∧ ∀ slot ∈ rule.slots, slot.criterion.text.isRegex = false :=
    ⟨_, rfl, by decide⟩
  have isCompiled : ∀ other ∈ [rule], other.IsCompiled :=
    List.forall_mem_singleton.mpr ⟨_, _, _, _, compiled⟩
  have keeps : ∀ other ∈ [rule], other.KeepsExpressions := by
    refine List.forall_mem_singleton.mpr fun slot member reference _ rewrites => ?_
    exact Bool.false_ne_true ((literal slot member).symm.trans rewrites.1)
  exact ⟨rule, compiled,
    ((disambiguate_fails_only_where_expressions_refer isCompiled _ _).2.2 keeps).2⟩

/-- The form behind an escaped backslash leaves a group without an opening bracket. -/
theorem apply_fails_of_escaped_backslash :
    ∃ rule,
      compile "D" [.word "a", { SlotSpec.regex "\\\\1" with reference := some (.ofSlot 1) }]
          .immunize none = .ok rule ∧
        rule.apply (.plain "es" "Español") (.ofWords ["a", "b"]) =
          .error (.reference 1 (.invalidRegex "\\(?:a)" .unopenedGroup)) := by
  refine ⟨_, rfl, ?_⟩
  simp only [apply, Query.occurrences, Sentence.length, Sentence.ofWords, Sentence.positionsOfWords,
    List.length_cons, List.length_nil, Nat.zero_add, Query.scan, Query.occurrenceAt?_eq_offers]
  decide +kernel

end PhraseRules
