import PhraseRules.Proofs.Agreement.Table
import PhraseRules.Proofs.Slot.Compiled
import PhraseRules.Rule.Basic

/-!
# What compiling a rule guarantees

A rule that is made from a description has features that its table defines, in the pattern and in
the antipatterns alike.  The slots of its pattern refer to earlier ones; those of the antipatterns
may refer to any.
-/

namespace PhraseRules

open PhraseRules.Outcome

/-! ## Slots one by one -/

/-- Each result comes from the element with its number. -/
theorem exists_of_compileEach {α β ε : Type} {compile : Nat → α → Except ε β} {index : Nat}
    {elements : List α} {results : List β}
    (compiled : compileEach compile index elements = .ok results) {offset : Nat} {result : β}
    (standing : results[offset]? = some result) :
    ∃ element, elements[offset]? = some element ∧
      compile (index + offset) element = .ok result := by
  induction elements generalizing index results offset with
  | nil =>
      cases compiled
      cases standing
  | cons element later induction =>
      rw [compileEach] at compiled
      rcases bind_eq_ok_iff.mp compiled with ⟨first, first_eq, compiled⟩
      rcases bind_eq_ok_iff.mp compiled with ⟨others, others_eq, equal⟩
      cases equal
      cases offset with
      | zero =>
          cases standing
          exact ⟨element, rfl, first_eq⟩
      | succ offset =>
          rcases induction others_eq standing with ⟨other, other_eq, result_eq⟩
          refine ⟨other, other_eq, ?_⟩
          rwa [Nat.add_assoc, Nat.add_comm 1] at result_eq

theorem resolves_of_checkFeatures {table : Option FeatureTable} {filters : List FeatureFilter}
    (checked : checkFeatures table filters = .ok ()) {filter : FeatureFilter}
    (member : filter ∈ filters) : FeatureTable.Resolves table filter := by
  induction filters with
  | nil => cases member
  | cons first later induction =>
      rw [checkFeatures.eq_def] at checked
      dsimp only at checked
      split at checked
      case h_1 => cases checked
      case h_2 defined =>
          rcases bind_eq_ok_iff.mp checked with ⟨_, validated, checked⟩
          rcases List.mem_cons.mp member with rfl | member
          · rcases bind_eq_ok_iff.mp validated with ⟨features, resolved, -⟩
            exact ⟨defined, features, rfl, resolved⟩
          · exact induction checked member

theorem Slot.filter_mem_filters {slot : Slot} {agreement : Agreement}
    (asks : slot.agreement = some agreement) : agreement.filter ∈ slot.filters := by
  cases slot
  cases asks
  simp [filters]

theorem checkFeatures_of_compileSlot {table : Option FeatureTable} {spec : SlotSpec} {slot : Slot}
    (compiled : compileSlot table spec = .ok slot) : checkFeatures table slot.filters = .ok () := by
  rcases bind_eq_ok_iff.mp compiled with ⟨made, -, compiled⟩
  rcases bind_eq_ok_iff.mp compiled with ⟨_, checked, equal⟩
  cases equal
  exact checked

/-- A matcher keeps what it was made from. -/
theorem Matcher.made_from_of_compile {pattern : String} {isRegex caseSensitive : Bool}
    {matcher : Matcher} (compiled : compile pattern isRegex caseSensitive = .ok matcher) :
    matcher.pattern = pattern ∧ matcher.isRegex = isRegex ∧
      matcher.caseSensitive = caseSensitive := by
  rw [compile] at compiled
  split at compiled
  case isTrue asked =>
      rcases bind_eq_ok_iff.mp compiled with ⟨test, -, equal⟩
      cases equal
      exact ⟨rfl, asked.symm, rfl⟩
  case isFalse notAsked =>
      cases compiled
      exact ⟨rfl, (Bool.eq_false_iff.mpr notAsked).symm, rfl⟩

/-- The matcher of a slot is made from the text of its description, and the slot refers to what the
description refers to. -/
theorem SlotSpec.text_of_compile {spec : SlotSpec} {slot : Slot}
    (compiled : spec.compile = .ok slot) :
    Matcher.compile (Text.trim spec.text) spec.isRegex spec.caseSensitive =
        .ok slot.criterion.text ∧
      slot.reference = spec.reference := by
  have compiles := compile_eq_ok_iff.mp compiled
  exact ⟨compiles.text_eq, compiles.reference_eq⟩

/-- A slot has the reference of its description, and a literal text if that has one. -/
theorem SlotSpec.reference_eq_of_compile {spec : SlotSpec} {slot : Slot}
    (compiled : spec.compile = .ok slot) :
    slot.reference = spec.reference ∧ slot.criterion.text.isRegex = spec.isRegex :=
  ⟨(text_of_compile compiled).2, (Matcher.made_from_of_compile (text_of_compile compiled).1).2.1⟩

/-! ## Patterns -/

section Patterns

variable {table : Option FeatureTable} {index : Nat} {spec : SlotSpec} {slot : Slot}

theorem compileSlot_of_compileNumbered (compiled : compileNumbered table index spec = .ok slot) :
    compileSlot table spec = .ok slot := by
  rcases bind_eq_ok_iff.mp compiled with ⟨made, made_eq, compiled⟩
  rcases bind_eq_ok_iff.mp compiled with ⟨_, -, equal⟩
  cases equal
  exact made_eq

theorem compile_of_compileSlot (compiled : compileSlot table spec = .ok slot) :
    spec.compile = .ok slot := by
  rcases bind_eq_ok_iff.mp compiled with ⟨made, made_eq, compiled⟩
  rcases bind_eq_ok_iff.mp compiled with ⟨_, -, equal⟩
  cases equal
  exact made_eq

/-- The features that a slot asks for are defined. -/
theorem resolves_of_compileSlot (compiled : compileSlot table spec = .ok slot)
    {agreement : Agreement} (asks : slot.agreement = some agreement) :
    FeatureTable.Resolves table agreement.filter :=
  resolves_of_checkFeatures (checkFeatures_of_compileSlot compiled) (Slot.filter_mem_filters asks)

/-- A slot of a pattern that refers to any refers to an earlier one. -/
theorem reference_le_of_compileNumbered (compiled : compileNumbered table index spec = .ok slot)
    {reference : Rendering} (refers : slot.reference = some reference) :
    ¬(reference.slot = 0 ∨ index < reference.slot) := by
  rcases bind_eq_ok_iff.mp compiled with ⟨made, -, compiled⟩
  rcases bind_eq_ok_iff.mp compiled with ⟨_, checked, equal⟩
  cases equal
  rw [checkReference.eq_def, refers] at checked
  dsimp only at checked
  split at checked
  case isTrue => cases checked
  case isFalse backwards => exact backwards

/-- Wherever a slot of a pattern stands, the description has one for it that was compiled. -/
theorem exists_compileNumbered {rule : String} {specs : List SlotSpec} {slots : List Slot}
    (compiled : compilePattern rule table specs = .ok slots)
    (standing : slots[index]? = some slot) :
    ∃ spec, specs[index]? = some spec ∧ compileNumbered table index spec = .ok slot := by
  rcases exists_of_compileEach compiled standing with ⟨spec, found, compiledSlot⟩
  rw [Nat.zero_add] at compiledSlot
  exact ⟨spec, found, mapError_eq_ok_iff.mp compiledSlot⟩

end Patterns

/-! ## Rules -/

namespace RuleSpec

variable {spec : RuleSpec} {rule : Rule}

/-- How the parts of a rule come from its description. -/
structure Compiles (spec : RuleSpec) (rule : Rule) : Prop where
  slots_eq : compilePattern spec.id spec.table spec.slots = .ok rule.slots
  antipatterns_eq : ∃ antipatterns,
    compileEach (compileAntipattern spec.id spec.table) 0 spec.antipatterns = .ok antipatterns ∧
      rule.antipatterns = antipatterns.filter (!·.isEmpty)
  table_eq : rule.table = spec.table

theorem compiles_of_compile (compiled : spec.compile = .ok rule) : spec.Compiles rule := by
  rw [compile] at compiled
  split at compiled
  · cases compiled
  · rcases bind_eq_ok_iff.mp compiled with ⟨slots, slots_eq, compiled⟩
    rcases bind_eq_ok_iff.mp compiled with ⟨antipatterns, antipatterns_eq, compiled⟩
    rcases bind_eq_ok_iff.mp compiled with ⟨_, -, compiled⟩
    rcases bind_eq_ok_iff.mp compiled with ⟨renderings, -, equal⟩
    cases equal
    exact ⟨slots_eq, ⟨antipatterns, antipatterns_eq, rfl⟩, rfl⟩

namespace Compiles

/-- Wherever a slot of the rule stands, the description has one for it that was compiled. -/
theorem exists_compileSlot (compiles : spec.Compiles rule) {slots : List Slot}
    (listed : slots ∈ rule.slots :: rule.antipatterns) :
    ∃ specs ∈ spec.slots :: spec.antipatterns, ∀ (index : Nat) slot, slots[index]? = some slot →
      ∃ slotSpec, specs[index]? = some slotSpec ∧ compileSlot rule.table slotSpec = .ok slot := by
  rw [compiles.table_eq]
  rcases List.mem_cons.mp listed with rfl | listed
  · refine ⟨spec.slots, List.mem_cons_self, fun index slot standing => ?_⟩
    rcases exists_compileNumbered compiles.slots_eq standing with ⟨slotSpec, found, compiled⟩
    exact ⟨slotSpec, found, compileSlot_of_compileNumbered compiled⟩
  · rcases compiles.antipatterns_eq with ⟨antipatterns, compiled, kept⟩
    rw [kept] at listed
    rcases List.mem_iff_getElem?.mp (List.mem_of_mem_filter listed) with ⟨number, found⟩
    rcases exists_of_compileEach compiled found with ⟨specs, specs_eq, compiledSlots⟩
    refine ⟨specs, List.mem_cons_of_mem _ (List.mem_of_getElem? specs_eq), ?_⟩
    intro index slot standing
    rcases exists_of_compileEach compiledSlots standing with ⟨slotSpec, found, compiledSlot⟩
    exact ⟨slotSpec, found, mapError_eq_ok_iff.mp compiledSlot⟩

/-- The features that a slot asks for are defined, wherever it stands. -/
theorem resolves (compiles : spec.Compiles rule) {slots : List Slot}
    (listed : slots ∈ rule.slots :: rule.antipatterns) {index : Nat} {slot : Slot}
    (standing : slots[index]? = some slot) {agreement : Agreement}
    (asks : slot.agreement = some agreement) :
    FeatureTable.Resolves rule.table agreement.filter := by
  rcases compiles.exists_compileSlot listed with ⟨specs, -, each⟩
  rcases each index slot standing with ⟨slotSpec, -, compiled⟩
  exact resolves_of_compileSlot compiled asks

/-- A slot of the pattern that refers to any refers to an earlier one. -/
theorem reference_le (compiles : spec.Compiles rule) {index : Nat} {slot : Slot}
    (standing : rule.slots[index]? = some slot) {reference : Rendering}
    (refers : slot.reference = some reference) :
    ¬(reference.slot = 0 ∨ index < reference.slot) := by
  rcases exists_compileNumbered compiles.slots_eq standing with ⟨slotSpec, -, compiled⟩
  exact reference_le_of_compileNumbered compiled refers

end Compiles

end RuleSpec

end PhraseRules
