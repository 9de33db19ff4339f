import Mathlib.Data.List.Chain
import Mathlib.Data.List.TakeWhile
import PhraseRules.Proofs.Rule.Prefilter

/-!
# References in templates

A template is read from left to right.  Where a backslash stands before a digit, a reference begins,
and all digits from there on are its own; everything else is literal text.  `Template.Spells` says
this of the parts of a template, and `Template.ofText_eq_iff` that a text has no other parts.

A rule is only made if the numbers that its references write are those of slots of its pattern.
-/

namespace PhraseRules

open PhraseRules.Outcome
open PhraseRules.Text
open PhraseRules.Unicode

/-! ## The parts of a text -/

namespace Template

/-- No reference begins in the text. -/
def IsPlain (text : List Char) : Prop :=
  text.IsChain fun c next => ¬(c = '\\' ∧ isDecimalDigit next = true)

/-- The parts of a template are those of a text: literal text as far as the next reference, which
goes as far as there are digits. -/
inductive Spells : Template → List Char → Prop where
  | tail {text : List Char} (plain : IsPlain text) : Spells ⟨[], text⟩ text
  | reference {literal digits tail text : List Char} {references : List TemplateReference}
      (plain : IsPlain literal) (written : digits ≠ [])
      (areDigits : ∀ c ∈ digits, isDecimalDigit c = true)
      (ends : text.head?.any isDecimalDigit = false) (spells : Spells ⟨references, tail⟩ text) :
      Spells ⟨⟨literal, digits⟩ :: references, tail⟩ (literal ++ '\\' :: (digits ++ text))

theorem isPlain_take_one (text : List Char) : IsPlain (text.take 1) := by
  cases text with
  | nil => exact .nil
  | cons c rest => exact .singleton c

/-- Text in which no reference begins goes on without one if none begins with its last character. -/
theorem isPlain_append_cons {before rest : List Char} {c : Char} :
    IsPlain (before ++ c :: rest.take 1) ↔
      IsPlain (before ++ [c]) ∧ ¬(c = '\\' ∧ rest.head?.any isDecimalDigit = true) := by
  cases rest with
  | nil => simp
  | cons next later => simp [IsPlain, List.isChain_append_cons_cons]

theorem IsPlain.not_begins {c : Char} {rest : List Char} (plain : IsPlain (c :: rest)) :
    ¬(c = '\\' ∧ rest.head?.any isDecimalDigit = true) := by
  cases rest with
  | nil => simp
  | cons next later => exact (List.isChain_cons_cons.mp plain).1

theorem takeWhile_ne_nil_of_head? {α : Type} {test : α → Bool} {elements : List α}
    (begins : elements.head?.any test = true) : elements.takeWhile test ≠ [] := by
  cases elements with
  | nil => cases begins
  | cons first later => simpa [List.takeWhile_cons] using begins

theorem head?_dropWhile_any {α : Type} (test : α → Bool) (elements : List α) :
    (elements.dropWhile test).head?.any test = false := by
  have stops := List.head?_dropWhile_not test elements
  cases first_eq : (elements.dropWhile test).head? with
  | none => rfl
  | some first =>
      rw [first_eq] at stops
      exact stops

theorem spells_read {literal text : List Char} (plain : IsPlain (literal.reverse ++ text.take 1)) :
    Spells (read literal text) (literal.reverse ++ text) := by
  induction literal, text using read.induct with
  | case1 literal =>
      rw [List.take_nil, List.append_nil] at plain
      rw [read, List.append_nil]
      exact .tail plain
  | case2 literal c rest begins induction =>
      obtain ⟨rfl, digit⟩ := begins
      have reference := Spells.reference (List.isChain_append.mp plain).1
        (takeWhile_ne_nil_of_head? digit) (fun _ => List.mem_takeWhile_imp)
        (head?_dropWhile_any isDecimalDigit rest) (induction (isPlain_take_one _))
      rw [read, if_pos ⟨rfl, digit⟩]
      rwa [List.takeWhile_append_dropWhile] at reference
  | case3 literal c rest goesOn induction =>
      rw [read, if_neg goesOn]
      rw [List.reverse_cons, List.append_assoc, List.append_assoc, List.singleton_append,
        List.singleton_append] at induction
      exact induction (isPlain_append_cons.mpr ⟨plain, goesOn⟩)

/-- Literal text is passed over. -/
theorem read_append {literal text : List Char} (plain : IsPlain (literal ++ text.take 1))
    (before : List Char) :
    read before (literal ++ text) = read (literal.reverse ++ before) text := by
  induction literal generalizing before with
  | nil => rfl
  | cons c later induction =>
      have head_eq : (later ++ text.take 1).head? = (later ++ text).head? := by
        cases later <;> cases text <;> rfl
      rw [List.cons_append] at plain
      have goesOn := plain.not_begins
      rw [head_eq] at goesOn
      rw [List.cons_append, read, if_neg goesOn, induction (List.IsChain.tail plain),
        List.reverse_cons, List.append_assoc, List.singleton_append]

theorem read_nil_of_spells {template : Template} {text : List Char}
    (spells : template.Spells text) : read [] text = template := by
  induction spells with
  | @tail text plain =>
      have plainOnly : IsPlain (text ++ List.take 1 []) := by simpa using plain
      have passed := read_append plainOnly []
      rw [List.append_nil, List.append_nil] at passed
      rw [passed, read, List.reverse_reverse]
  | @reference literal digits tail text references plain written areDigits ends spells induction =>
      have begins : (digits ++ text).head?.any isDecimalDigit = true := by
        cases digits with
        | nil => exact absurd rfl written
        | cons first later => exact areDigits first List.mem_cons_self
      have noMore : text.takeWhile isDecimalDigit = [] ∧ text.dropWhile isDecimalDigit = text := by
        cases text with
        | nil => exact ⟨rfl, rfl⟩
        | cons next behind =>
            have noDigit : ¬isDecimalDigit next = true := by simpa using ends
            exact ⟨List.takeWhile_cons_of_neg noDigit, List.dropWhile_cons_of_neg noDigit⟩
      have plainBefore : IsPlain (literal ++ ['\\']) := by
        refine List.isChain_append.mpr ⟨plain, .singleton _, fun c _ next isNext digit => ?_⟩
        cases Option.some.inj isNext
        exact absurd digit.2 (by decide)
      rw [read_append plainBefore, read, if_pos ⟨rfl, begins⟩,
        List.takeWhile_append_of_pos areDigits, List.dropWhile_append_of_pos areDigits, noMore.1,
        noMore.2, induction, List.append_nil, List.append_nil, List.reverse_reverse]

/-- The template of a text has the parts of the text, and no other template has. -/
theorem ofText_eq_iff {template : Template} {text : String} :
    ofText text = template ↔ template.Spells text.toList := by
  constructor
  · rintro rfl
    exact spells_read (isPlain_take_one _)
  · exact read_nil_of_spells

/-- The text that has the parts of a template. -/
def written (template : Template) : List Char :=
  template.references.flatMap (fun reference => reference.literal ++ '\\' :: reference.digits) ++
    template.tail

theorem Spells.written_eq {template : Template} {text : List Char}
    (spells : template.Spells text) : template.written = text := by
  induction spells with
  | tail => rfl
  | reference _ _ _ _ _ induction =>
      rw [written] at induction ⊢
      rw [List.flatMap_cons, List.append_assoc, induction, List.append_assoc, List.cons_append]

/-- How far references reach in a text that begins with them and the literal text before each. -/
def reach (references : List TemplateReference) : Nat :=
  (written ⟨references, []⟩).length

/-- The literal text of a template is cut out of a text: before each reference what stands behind
the one before, and behind the last one the rest. -/
structure CutsOut (template : Template) (text : List Char) : Prop where
  literals : ∀ earlier reference later, template.references = earlier ++ reference :: later →
    ∃ stop, reach earlier ≤ stop ∧ stop < text.length ∧
      reference.literal = (text.take stop).drop (reach earlier)
  rest : reach template.references ≤ text.length ∧
    template.tail = text.drop (reach template.references)

theorem Spells.cutsOut {template : Template} {text : List Char} (spells : template.Spells text) :
    template.CutsOut text := by
  rcases template with ⟨references, tail⟩
  rw [← spells.written_eq]
  constructor
  · rintro earlier reference later rfl
    have text_eq : written ⟨earlier ++ reference :: later, tail⟩ =
        (written ⟨earlier, []⟩ ++ reference.literal) ++
          '\\' :: (reference.digits ++ written ⟨later, tail⟩) := by
      simp [written]
    refine ⟨(written ⟨earlier, []⟩ ++ reference.literal).length, ?_, ?_, ?_⟩
    · rw [reach, List.length_append]
      exact Nat.le_add_right _ _
    · simp only [text_eq, List.length_append, List.length_cons]
      omega
    · rw [text_eq, List.take_left, reach, List.drop_left]
  · have text_eq : written ⟨references, tail⟩ = written ⟨references, []⟩ ++ tail := by
      simp [written]
    rw [text_eq, reach, List.drop_left, List.length_append]
    exact ⟨Nat.le_add_right _ _, rfl⟩

theorem Spells.digits_ne_nil {template : Template} {text : List Char}
    (spells : template.Spells text) : ∀ reference ∈ template.references, reference.digits ≠ [] := by
  induction spells with
  | tail => exact fun _ member => absurd member List.not_mem_nil
  | reference _ written _ _ _ induction => exact List.forall_mem_cons.mpr ⟨written, induction⟩

end Template

/-! ## Numbers -/

namespace TemplateReference

/-- The digits of the reference write a number: they are ASCII digits, and the number fits a word of
64 bits. -/
def IsReadable (reference : TemplateReference) : Prop :=
  (∀ c ∈ reference.digits, c.isDigit = true) ∧
    valueOfDigits 10 reference.digits < UInt64.size

variable {reference : TemplateReference}

theorem number?_of_isReadable (written : reference.digits ≠ []) (readable : reference.IsReadable) :
    reference.number? = some (valueOfDigits 10 reference.digits) := by
  rw [number?, wordOfDigits?]
  apply if_pos
  have ascii := readable.1
  have fits := readable.2
  simpa [written, fits] using ascii

theorem number?_of_not_isReadable (unreadable : ¬reference.IsReadable) :
    reference.number? = none := by
  rw [number?, wordOfDigits?]
  apply if_neg
  intro read
  simp only [Bool.and_eq_true, List.all_eq_true, decide_eq_true_eq] at read
  exact unreadable ⟨read.1.2, read.2⟩

end TemplateReference

/-! ## What compiling a rule checks -/

theorem checkNumbers_eq_ok_iff {count : Nat} {numbers : List Nat} :
    checkNumbers count numbers = .ok () ↔ ∀ number ∈ numbers, 1 ≤ number ∧ number ≤ count := by
  induction numbers with
  | nil => simp [checkNumbers]
  | cons number later induction =>
      rw [checkNumbers, List.forall_mem_cons, ← induction]
      split
      case isTrue outside => simp; omega
      case isFalse inside =>
          exact ⟨fun checked => ⟨by omega, checked⟩, fun checked => checked.2⟩

/-- The rendering is for a slot of a pattern with `count` slots, and ends no sooner than there and
within the pattern. -/
structure Rendering.IsPlaced (rendering : Rendering) (count : Nat) : Prop where
  one_le_slot : 1 ≤ rendering.slot
  slot_le : rendering.slot ≤ rendering.lastSlot.getD rendering.slot
  lastSlot_le : rendering.lastSlot.getD rendering.slot ≤ count

theorem isPlaced_of_collectRenderings {count : Nat} {collected renderings : SortedMap Nat Rendering}
    {listed : List Rendering}
    (checked : collectRenderings count collected listed = .ok renderings)
    (placed : ∀ entry ∈ collected, entry.2.slot = entry.1 ∧ entry.2.IsPlaced count) :
    ∀ entry ∈ renderings, entry.2.slot = entry.1 ∧ entry.2.IsPlaced count := by
  induction listed generalizing collected with
  | nil =>
      cases checked
      exact placed
  | cons rendering later induction =>
      rw [collectRenderings] at checked
      split at checked
      case isTrue => cases checked
      case isFalse inside =>
          refine induction checked fun entry member => ?_
          rcases SortedMap.mem_set member with rfl | member
          · exact ⟨rfl, by constructor <;> simp only <;> omega⟩
          · exact placed entry member

namespace RuleSpec

variable {spec : RuleSpec} {rule : Rule}

/-- The texts and renderings of a rule are those of its description, and were checked against the
slots of the pattern. -/
structure ChecksReferences (spec : RuleSpec) (rule : Rule) : Prop where
  templates_eq : rule.message :: rule.shortMessage :: rule.suggestions = spec.templates
  numbers : ∀ text ∈ spec.templates, ∀ number ∈ (Template.ofText text).numbers,
    1 ≤ number ∧ number ≤ rule.slots.length
  renderings : ∀ entry ∈ rule.renderings,
    entry.2.slot = entry.1 ∧ entry.2.IsPlaced rule.slots.length

theorem checksReferences_of_compile (compiled : spec.compile = .ok rule) :
    spec.ChecksReferences rule := by
  rw [compile] at compiled
  split at compiled
  case isTrue => cases compiled
  case isFalse =>
      rcases bind_eq_ok_iff.mp compiled with ⟨slots, slots_eq, compiled⟩
      rcases bind_eq_ok_iff.mp compiled with ⟨antipatterns, antipatterns_eq, compiled⟩
      rcases bind_eq_ok_iff.mp compiled with ⟨_, checked, compiled⟩
      rcases bind_eq_ok_iff.mp compiled with ⟨renderings, collected, equal⟩
      cases equal
      have inside := checkNumbers_eq_ok_iff.mp (mapError_eq_ok_iff.mp checked)
      refine ⟨rfl, fun text member number listed => ?_, ?_⟩
      · exact inside number (List.mem_flatMap.mpr ⟨text, member, listed⟩)
      · exact isPlaced_of_collectRenderings (mapError_eq_ok_iff.mp collected)
          fun _ member => absurd member List.not_mem_nil

end RuleSpec

namespace Rule

variable {rule : Rule}

/--
In the texts of a rule that is made, a reference is a backslash with all digits that stand behind
it.  It has the number of a slot just if its digits write a number, and then it is that number.
Other digits are passed over when the rule is made, and the reference gives the empty text.
-/
theorem reference_of_isReadable {spec : RuleSpec} (compiled : spec.compile = .ok rule)
    {text : String} (member : text ∈ rule.message :: rule.shortMessage :: rule.suggestions) :
    (Template.ofText text).Spells text.toList ∧
    ∀ reference ∈ (Template.ofText text).references,
      ((1 ≤ reference.number ∧ reference.number ≤ rule.slots.length) ↔ reference.IsReadable) ∧
      (reference.IsReadable → reference.number = valueOfDigits 10 reference.digits) ∧
      (¬reference.IsReadable → reference.number = 0 ∧
        ∀ (synthesizer : Option Synthesizer) (language : Language) (sentence : Sentence)
          (occurrence : Occurrence),
          rule.valuesOf synthesizer language sentence occurrence reference.number = .ok [""]) := by
  have spells := Template.ofText_eq_iff.mp (rfl : Template.ofText text = _)
  refine ⟨spells, fun reference listed => ?_⟩
  by_cases readable : reference.IsReadable
  · have number?_eq := TemplateReference.number?_of_isReadable
      (spells.digits_ne_nil reference listed) readable
    have number_eq : reference.number = valueOfDigits 10 reference.digits := by
      rw [TemplateReference.number, number?_eq, Option.getD_some]
    have checks := RuleSpec.checksReferences_of_compile compiled
    have inside := checks.numbers text (checks.templates_eq ▸ member) reference.number
      (List.mem_filterMap.mpr ⟨reference, listed, number?_eq.trans (congrArg some number_eq.symm)⟩)
    exact ⟨iff_of_true inside readable, fun _ => number_eq, fun not => absurd readable not⟩
  · have number_eq : reference.number = 0 := by
      rw [TemplateReference.number, TemplateReference.number?_of_not_isReadable readable,
        Option.getD_none]
    rw [number_eq]
    refine ⟨iff_of_false (fun inside => absurd inside.1 (Nat.not_succ_le_zero 0)) readable,
      fun read => absurd read readable, fun _ => ⟨rfl, fun _ _ _ _ => rfl⟩⟩

/-- A reference to the second slot, behind a backslash that is not its own. -/
theorem reference_of_isReadable_of_second_slot :
    ∃ rule,
      { RuleSpec.named "R" with
          slots := [.word "la", .word "casa"], suggestions := ["\\\\02."] }.compile = .ok rule ∧
      (⟨[⟨['\\'], ['0', '2']⟩], ['.']⟩ : Template).Spells "\\\\02.".toList ∧
      ∃ reference ∈ (Template.ofText "\\\\02.").references, reference.number = 2 ∧
        1 ≤ reference.number ∧ reference.number ≤ rule.slots.length := by
  have read_eq : Template.ofText "\\\\02." = ⟨[⟨['\\'], ['0', '2']⟩], ['.']⟩ := by decide +kernel
  obtain ⟨rule, compiled, suggestions_eq⟩ : ∃ rule,
      { RuleSpec.named "R" with
          slots := [.word "la", .word "casa"], suggestions := ["\\\\02."] }.compile = .ok rule ∧
        rule.suggestions = ["\\\\02."] := by
    apply Exists.intro
    constructor
    · simp only [RuleSpec.compile, RuleSpec.named, RuleSpec.templates, List.flatMap_cons,
        List.flatMap_nil, ofText_empty, read_eq]
      rfl
    · rfl
  have member : "\\\\02." ∈ rule.message :: rule.shortMessage :: rule.suggestions := by
    simp [suggestions_eq]
  obtain ⟨spells, valid⟩ := reference_of_isReadable compiled member
  have listed : (⟨['\\'], ['0', '2']⟩ : TemplateReference) ∈
      (Template.ofText "\\\\02.").references := by
    rw [read_eq]
    exact List.mem_singleton_self _
  have readable : (⟨['\\'], ['0', '2']⟩ : TemplateReference).IsReadable := by
    constructor
    · simp
    · decide
  obtain ⟨inside_iff, number_eq, -⟩ := valid _ listed
  refine ⟨rule, compiled, read_eq ▸ spells, _, listed, ?_, inside_iff.mpr readable⟩
  rw [number_eq readable]
  rfl

/-- Numbers that are too large, and digits of other scripts, are passed over when a rule is made,
and nothing stands for them in what it reports. -/
theorem exists_reference_outside :
    ∃ rule,
      { RuleSpec.named "R" with
          slots := [SlotSpec.word "a"]
          message := "\\99999999999999999999"
          shortMessage := "\\١" }.compile = .ok rule ∧
      (∀ text ∈ [rule.message, rule.shortMessage], ∃ reference ∈ (Template.ofText text).references,
        ¬(1 ≤ reference.number ∧ reference.number ≤ rule.slots.length)) ∧
      rule.findings none (.plain "es" "Español") (.ofWords ["a"]) =
        .ok [⟨"R", 0, 1, 1, 2, 0, 1, "", "", []⟩] := by
  have message_eq : Template.ofText "\\99999999999999999999" =
      ⟨[⟨[], "99999999999999999999".toList⟩], []⟩ := by
    decide +kernel
  have shortMessage_eq : Template.ofText "\\١" = ⟨[⟨[], ['١']⟩], []⟩ := by decide +kernel
  apply Exists.intro
  refine ⟨?_, ?_⟩
  · simp only [RuleSpec.compile, RuleSpec.named, RuleSpec.templates, List.flatMap_cons,
      List.flatMap_nil, message_eq, shortMessage_eq]
    rfl
  generalize rule_eq : Rule.mk _ _ _ _ _ _ _ _ _ _ _ = rule
  have passes : rule.mayOccur (.ofWords ["a"]) = true := by
    subst rule_eq
    decide +kernel
  constructor
  · subst rule_eq
    refine List.forall_mem_cons.mpr
      ⟨⟨⟨[], "99999999999999999999".toList⟩, ?_, by decide +kernel⟩,
        List.forall_mem_singleton.mpr ⟨⟨[], ['١']⟩, ?_, by decide +kernel⟩⟩
    · rw [message_eq]
      exact List.mem_singleton_self _
    · rw [shortMessage_eq]
      exact List.mem_singleton_self _
  · rw [findings, if_pos passes]
    subst rule_eq
    simp only [searchFindings, exempted, finding, message_eq, shortMessage_eq, Sentence.length,
      Sentence.ofWords, Sentence.positionsOfWords, List.length_cons, List.length_nil, Nat.zero_add,
      Query.scan, Query.occurrenceAt?_eq_offers]
    decide +kernel

end Rule

end PhraseRules
