import Mathlib.Data.List.Infix
import PhraseRules.Proofs.Rule.Suggestions
import PhraseRules.Proofs.Rule.Template

/-!
# Spaces in messages and suggestions

Slots that were left out have the empty text for their value, and the literal text around it would
bring two spaces together.  A space of literal text is not written behind another one, so that texts
without doubled spaces (`IsSpacedOnce`) are all that a message or a suggestion is made of, and
`Rule.isSpacedOnce_of_values` says that it has none itself.

It takes no more of values than that they have no doubled space and do not begin with a space
(`FollowsOn`); such values can be written behind any text, and one behind the other.
-/

namespace PhraseRules

open PhraseRules.Outcome
open PhraseRules.Text
open PhraseRules.Unicode

/-- No two spaces stand side by side. -/
def IsSpacedOnce (text : List Char) : Prop :=
  text.IsChain fun c next => ¬(c = ' ' ∧ next = ' ')

instance (text : List Char) : Decidable (IsSpacedOnce text) :=
  inferInstanceAs (Decidable (List.IsChain _ _))

/-- The text has no doubled space, and makes none behind another text.  It may be empty. -/
structure FollowsOn (text : List Char) : Prop where
  isSpacedOnce : IsSpacedOnce text
  begins : text.head? ≠ some ' '

instance (text : List Char) : Decidable (FollowsOn text) :=
  decidable_of_iff (IsSpacedOnce text ∧ text.head? ≠ some ' ')
    ⟨fun follows => ⟨follows.1, follows.2⟩, fun follows => ⟨follows.1, follows.2⟩⟩

variable {text written later literal : List Char}

theorem isSpacedOnce_append_iff :
    IsSpacedOnce (text ++ later) ↔ IsSpacedOnce text ∧ IsSpacedOnce later ∧
      (text.getLast? = some ' ' → later.head? ≠ some ' ') := by
  rw [IsSpacedOnce, List.isChain_append]
  refine and_congr_right fun _ => and_congr_right fun _ => ?_
  constructor
  · exact fun apart ends begins => apart ' ' ends ' ' begins ⟨rfl, rfl⟩
  · rintro apart c ends next begins ⟨rfl, rfl⟩
    exact apart ends begins

/-- Text without a space doubles none before other text. -/
theorem isSpacedOnce_append_of_not_mem (noSpace : ' ' ∉ text) :
    IsSpacedOnce (text ++ later) ↔ IsSpacedOnce later := by
  induction text with
  | nil => rfl
  | cons c rest induction =>
      rw [List.mem_cons, not_or] at noSpace
      rw [List.cons_append, IsSpacedOnce, List.isChain_cons, ← IsSpacedOnce, induction noSpace.2,
        and_iff_right]
      exact fun _ _ both => noSpace.1 both.1.symm

theorem IsSpacedOnce.append (spaced : IsSpacedOnce text) (follows : FollowsOn later) :
    IsSpacedOnce (text ++ later) :=
  isSpacedOnce_append_iff.mpr ⟨spaced, follows.isSpacedOnce, fun _ => follows.begins⟩

theorem FollowsOn.append (follows : FollowsOn text) (followsLater : FollowsOn later) :
    FollowsOn (text ++ later) := by
  refine ⟨follows.isSpacedOnce.append followsLater, ?_⟩
  cases text with
  | nil => exact followsLater.begins
  | cons c rest => exact follows.begins

/-! ## Templates -/

namespace Template

/-- The literal text of a template, stretch by stretch. -/
def literals (template : Template) : List (List Char) :=
  template.references.map (·.literal) ++ [template.tail]

theorem forall_mem_literals_iff {template : Template} {test : List Char → Prop} :
    (∀ literal ∈ template.literals, test literal) ↔
      (∀ reference ∈ template.references, test reference.literal) ∧ test template.tail := by
  rw [literals, List.forall_mem_append, List.forall_mem_map, List.forall_mem_singleton]

/-- References are written without spaces, so that spaces are doubled in the literal text if they
are in the text of a template. -/
theorem Spells.isSpacedOnce_iff {template : Template} (spells : template.Spells text) :
    IsSpacedOnce text ↔ ∀ literal ∈ template.literals, IsSpacedOnce literal := by
  rw [forall_mem_literals_iff]
  induction spells with
  | tail => simp
  | @reference literal digits tail text references _ _ areDigits _ _ induction =>
      have noSpace : ' ' ∉ '\\' :: digits := by
        rw [List.mem_cons, not_or]
        refine ⟨by decide, fun member => absurd (areDigits ' ' member) ?_⟩
        decide +kernel
      have behind : IsSpacedOnce ('\\' :: (digits ++ text)) ↔ IsSpacedOnce text :=
        isSpacedOnce_append_of_not_mem noSpace
      have begins : ('\\' :: (digits ++ text)).head? ≠ some ' ' := by simp
      rw [isSpacedOnce_append_iff, behind, and_iff_left fun _ => begins, induction,
        List.forall_mem_cons, and_assoc]

/-- Literal text is written behind another text without doubling a space. -/
theorem isSpacedOnce_appendLiteral (spaced : IsSpacedOnce written)
    (literalSpaced : IsSpacedOnce literal) : IsSpacedOnce (appendLiteral written literal) := by
  rw [appendLiteral, literalBehind.eq_def]
  split
  case h_1 rest =>
      rw [IsSpacedOnce, List.isChain_cons] at literalSpaced
      split
      case isTrue =>
          refine spaced.append ⟨literalSpaced.2, fun begins => ?_⟩
          exact literalSpaced.1 ' ' begins ⟨rfl, rfl⟩
      case isFalse apart =>
          rw [beq_iff_eq] at apart
          exact isSpacedOnce_append_iff.mpr
            ⟨spaced, List.isChain_cons.mpr literalSpaced, fun ends => absurd ends apart⟩
  case h_2 noSpace =>
      refine spaced.append ⟨literalSpaced, fun begins => ?_⟩
      cases literal with
      | nil => cases begins
      | cons c rest => exact noSpace rest (by rw [Option.some.inj begins])

/-- The values of a reference can be listed behind any text, even if some of them are empty. -/
theorem followsOn_joinValues {values : List String}
    (follow : ∀ value ∈ values, FollowsOn value.toList) : FollowsOn (joinValues values) := by
  rw [joinValues]
  induction values with
  | nil => exact ⟨.nil, by simp⟩
  | cons value others induction =>
      have followsFirst := follow value List.mem_cons_self
      have followsOthers := induction fun other member =>
        follow other (List.mem_cons_of_mem _ member)
      cases others with
      | nil => rwa [String.intercalate_singleton]
      | cons next rest =>
          have comma : FollowsOn ", ".toList := by decide
          rw [String.intercalate_cons_cons, String.toList_append, String.toList_append]
          exact (followsFirst.append comma).append followsOthers

variable {Fault : Type} {valuesOf : Nat → Except Fault (List String)} {tail : List Char}
  {references : List TemplateReference}

/-- All values that are given for the number can be written behind any text. -/
def GivesFollowing (valuesOf : Nat → Except Fault (List String)) (number : Nat) : Prop :=
  ∀ values, valuesOf number = .ok values → ∀ value ∈ values, FollowsOn value.toList

theorem isSpacedOnce_of_fillMessage (tailSpaced : IsSpacedOnce tail)
    (literals : ∀ reference ∈ references, IsSpacedOnce reference.literal)
    (follow : ∀ reference ∈ references, GivesFollowing valuesOf reference.number)
    (spaced : IsSpacedOnce written) {filled : List Char}
    (filled_eq : fillMessage valuesOf tail written references = .ok filled) :
    IsSpacedOnce filled := by
  -- what has been written so far has no doubled space, whatever it ends with
  induction references generalizing written with
  | nil =>
      cases filled_eq
      exact isSpacedOnce_appendLiteral spaced tailSpaced
  | cons reference later induction =>
      rcases bind_eq_ok_iff.mp filled_eq with ⟨values, values_eq, filled_eq⟩
      rw [List.forall_mem_cons] at literals follow
      have listed := followsOn_joinValues (follow.1 values values_eq)
      exact induction literals.2 follow.2
        ((isSpacedOnce_appendLiteral spaced literals.1).append listed) filled_eq

theorem isSpacedOnce_of_fillSuggestions (tailSpaced : IsSpacedOnce tail)
    (literals : ∀ reference ∈ references, IsSpacedOnce reference.literal)
    (follow : ∀ reference ∈ references, GivesFollowing valuesOf reference.number)
    {begun filled : List (List Char)} (spaced : ∀ text ∈ begun, IsSpacedOnce text)
    (filled_eq : fillSuggestions valuesOf tail begun references = .ok filled) :
    ∀ text ∈ filled, IsSpacedOnce text := by
  induction references generalizing begun with
  | nil =>
      cases filled_eq
      exact List.forall_mem_map.mpr fun text member =>
        isSpacedOnce_appendLiteral (spaced text member) tailSpaced
  | cons reference later induction =>
      rcases bind_eq_ok_iff.mp filled_eq with ⟨values, values_eq, filled_eq⟩
      rw [List.forall_mem_cons] at literals follow
      refine induction literals.2 follow.2 (fun text member => ?_) filled_eq
      rw [extendAll, mem_distinct_iff, List.mem_flatMap] at member
      rcases member with ⟨before, listed, extended⟩
      rcases List.mem_map.mp extended with ⟨value, given, rfl⟩
      exact (isSpacedOnce_appendLiteral (spaced before listed) literals.1).append
        (follow.1 values values_eq value given)

/-- A message has no doubled space if neither the literal text nor the values of its template do. -/
theorem isSpacedOnce_of_message {template : Template}
    (literals : ∀ literal ∈ template.literals, IsSpacedOnce literal)
    (follow : ∀ reference ∈ template.references, GivesFollowing valuesOf reference.number)
    {message : String} (message_eq : template.message valuesOf = .ok message) :
    IsSpacedOnce message.toList := by
  rcases bind_eq_ok_iff.mp message_eq with ⟨filled, filled_eq, equal⟩
  cases equal
  rw [forall_mem_literals_iff] at literals
  rw [String.toList_ofList]
  exact isSpacedOnce_of_fillMessage literals.2 literals.1 follow .nil filled_eq

theorem isInfix_trimChars (chars : List Char) : trimChars chars <:+: chars := by
  have behind : chars.dropWhile isWhiteSpace <:+ chars := List.dropWhile_suffix isWhiteSpace
  have before : trimChars chars <+: chars.dropWhile isWhiteSpace := by
    rw [trimChars, ← List.reverse_suffix, List.reverse_reverse]
    exact List.dropWhile_suffix isWhiteSpace
  exact before.isInfix.trans behind.isInfix

theorem isSpacedOnce_of_suggestions {template : Template}
    (literals : ∀ literal ∈ template.literals, IsSpacedOnce literal)
    (follow : ∀ reference ∈ template.references, GivesFollowing valuesOf reference.number)
    {suggestions : List String} (suggestions_eq : template.suggestions valuesOf = .ok suggestions) :
    ∀ suggestion ∈ suggestions, IsSpacedOnce suggestion.toList := by
  rcases bind_eq_ok_iff.mp suggestions_eq with ⟨filled, filled_eq, equal⟩
  cases equal
  rw [forall_mem_literals_iff] at literals
  have spaced := isSpacedOnce_of_fillSuggestions literals.2 literals.1 follow
    (List.forall_mem_singleton.mpr .nil) filled_eq
  intro suggestion member
  rcases List.mem_map.mp member with ⟨chars, kept, rfl⟩
  rcases List.mem_map.mp (List.mem_filter.mp kept).1 with ⟨text, listed, rfl⟩
  rw [String.toList_ofList]
  exact List.IsChain.infix (spaced text listed) (isInfix_trimChars text)

end Template

/-! ## Case -/

theorem lt_of_mapInRuns {least point image : Nat} {runs : List MappingRun}
    (above : ∀ run ∈ runs, least < run.target) (mapped : mapInRuns point runs = some image) :
    least < image := by
  induction runs with
  | nil => cases mapped
  | cons run later induction =>
      rw [List.forall_mem_cons] at above
      rw [mapInRuns] at mapped
      split at mapped
      case isTrue => cases mapped
      case isFalse =>
          split at mapped
          case h_1 applied =>
              cases mapped
              unfold MappingRun.apply? at applied
              split at applied
              case isTrue =>
                  cases applied
                  exact Nat.lt_add_right _ above.1
              case isFalse => cases applied
          case h_2 => exact induction above.2 mapped

/-- The images of a mapping are above all code points that all its targets are above. -/
theorem lt_of_mapInBlocks {least point image : Nat} {blocks : List MappingBlock}
    (above : ∀ block ∈ blocks, ∀ run ∈ block.runs, least < run.target)
    (mapped : mapInBlocks point blocks = some image) : least < image := by
  induction blocks with
  | nil => cases mapped
  | cons block later induction =>
      rw [List.forall_mem_cons] at above
      rw [mapInBlocks] at mapped
      split at mapped
      case isTrue => exact lt_of_mapInRuns above.1 mapped
      case isFalse => exact induction above.2 mapped

theorem ofNat_ne_space {point : Nat} (above : 32 < point) : Char.ofNat point ≠ ' ' := by
  intro equal
  by_cases valid : point.isValidChar
  · have point_eq : (Char.ofNat point).toNat = point := by
      rw [Char.ofNat, dif_pos valid]
      rfl
    rw [equal] at point_eq
    exact absurd above (point_eq ▸ by decide)
  · rw [Char.ofNat, dif_neg valid] at equal
    cases equal

/-- Only a space is written in uppercase with a space. -/
theorem space_not_mem_toUppercase {c : Char} (noSpace : c ≠ ' ') : ' ' ∉ toUppercase c := by
  have runsAbove : ∀ block ∈ uppercaseRuns, ∀ run ∈ block.runs, 32 < run.target := by
    decide +kernel
  have expansionsAbove : ∀ expansion ∈ uppercaseExpansions, ∀ point ∈ expansion.2, 32 < point := by
    decide +kernel
  rw [toUppercase, mapCase]
  split
  case h_1 image mapped =>
      rw [List.mem_singleton]
      exact (ofNat_ne_space (lt_of_mapInBlocks runsAbove mapped)).symm
  case h_2 =>
      split
      case h_1 images images_eq =>
          rcases List.lookup_eq_some_iff.mp images_eq with ⟨before, behind, listed, -⟩
          have above := expansionsAbove (c.toNat, images)
            (listed ▸ List.mem_append_right _ List.mem_cons_self)
          intro member
          rcases List.mem_map.mp member with ⟨point, image, equal⟩
          exact ofNat_ne_space (above point image) equal
      case h_2 =>
          rw [List.mem_singleton]
          exact noSpace.symm

theorem isSpacedOnce_uppercaseInitial {text : String} (spaced : IsSpacedOnce text.toList) :
    IsSpacedOnce (uppercaseInitial text).toList := by
  rw [uppercaseInitial]
  split
  case h_1 => exact .nil
  case h_2 c rest text_eq =>
      rw [text_eq] at spaced
      rw [String.toList_ofList]
      -- a space is no letter and stays, and the images of other characters hold none
      by_cases isSpace : c = ' '
      · have unchanged : toUppercase ' ' = [' '] := by decide +kernel
        rwa [isSpace, unchanged, List.singleton_append, ← isSpace]
      · have noSpace := space_not_mem_toUppercase isSpace
        exact (isSpacedOnce_append_of_not_mem noSpace).mpr spaced.tail

namespace Language

/-- No space is doubled when the first letter of a text gets uppercase. -/
def KeepsSpacing (language : Language) : Prop :=
  ∀ text : String, IsSpacedOnce text.toList → IsSpacedOnce (language.uppercaseFirst text).toList

theorem keepsSpacing_plain (code name : String) : (plain code name).KeepsSpacing :=
  fun _ => isSpacedOnce_uppercaseInitial

theorem keepsSpacing_dutch : dutch.KeepsSpacing := by
  intro text spaced
  change IsSpacedOnce (uppercaseDigraph text).toList
  rw [uppercaseDigraph]
  split
  case h_1 i j rest text_eq =>
      split
      case isTrue =>
          rw [text_eq] at spaced
          rw [String.toList_ofList]
          have noSpace : ' ' ∉ ['I', 'J'] := by decide
          exact (isSpacedOnce_append_of_not_mem noSpace).mpr spaced.tail.tail
      case isFalse => exact isSpacedOnce_uppercaseInitial spaced
  case h_2 => exact isSpacedOnce_uppercaseInitial spaced

/-- None of the languages that have a code doubles a space. -/
theorem keepsSpacing_of_known {code : String} {language : Language}
    (known : ofCode? code = some language) : language.KeepsSpacing :=
  of_known keepsSpacing_plain keepsSpacing_dutch known

end Language

/-! ## Occurrences -/

namespace Rule

/--
Slots that were left out double no space.  If neither the literal text of a template nor the values
of its references have a doubled space, and no value begins with a space, then the message and the
suggestions of the template exist and have none, however many of the values are empty; and the
suggestions have none in uppercase either, unless the language brings it in.
-/
theorem isSpacedOnce_of_values (rule : Rule) (synthesizer : Option Synthesizer)
    (language : Language) (sentence : Sentence) (occurrence : Occurrence) {text : String}
    (literals : ∀ literal ∈ (Template.ofText text).literals, IsSpacedOnce literal)
    (given : ∀ reference ∈ (Template.ofText text).references, ∃ values,
      rule.valuesOf synthesizer language sentence occurrence reference.number = .ok values ∧
        ∀ value ∈ values, FollowsOn value.toList) :
    (∃ message,
      (Template.ofText text).message (rule.valuesOf synthesizer language sentence occurrence) =
          .ok message ∧
        IsSpacedOnce message.toList) ∧
    (∃ suggestions,
      (Template.ofText text).suggestions (rule.valuesOf synthesizer language sentence occurrence) =
          .ok suggestions ∧
        ∀ suggestion ∈ suggestions, IsSpacedOnce suggestion.toList) ∧
    (language.KeepsSpacing → ∀ uppercase, ∃ suggestions,
      rule.suggestionsOf synthesizer language sentence occurrence uppercase text =
          .ok suggestions ∧
        ∀ suggestion ∈ suggestions, IsSpacedOnce suggestion.toList) := by
  have succeeds : ∀ reference ∈ (Template.ofText text).references, ∃ values,
      rule.valuesOf synthesizer language sentence occurrence reference.number = .ok values :=
    fun reference member => (given reference member).imp fun _ => And.left
  have follow : ∀ reference ∈ (Template.ofText text).references,
      Template.GivesFollowing (rule.valuesOf synthesizer language sentence occurrence)
        reference.number := by
    intro reference member values values_eq
    obtain ⟨others, others_eq, followsOn⟩ := given reference member
    cases values_eq.symm.trans others_eq
    exact followsOn
  obtain ⟨message, message_eq⟩ := Template.exists_message_eq_ok_iff.mpr succeeds
  obtain ⟨suggestions, suggestions_eq⟩ := Template.exists_suggestions_eq_ok_iff.mpr succeeds
  have spaced := Template.isSpacedOnce_of_suggestions literals follow suggestions_eq
  refine ⟨⟨message, message_eq, Template.isSpacedOnce_of_message literals follow message_eq⟩,
    ⟨suggestions, suggestions_eq, spaced⟩, fun keeps uppercase => ?_⟩
  rw [suggestionsOf_eq, suggestions_eq, map_ok]
  refine ⟨_, rfl, ?_⟩
  split
  case isTrue =>
      exact List.forall_mem_map.mpr fun suggestion member =>
        keeps suggestion (spaced suggestion member)
  case isFalse => exact spaced

/-- Two slots are left out, and referred to at both ends and one right behind the other. -/
theorem isSpacedOnce_of_omitted_slots :
    ∃ rule,
      { RuleSpec.named "R" with
          slots := [SlotSpec.word "a", { SlotSpec.word "muy" with least := 0 },
            { SlotSpec.word "tan" with least := 0 }, SlotSpec.word "b"]
          suggestions := ["\\2 \\1 \\2\\3 \\4 \\3"] }.compile = .ok rule ∧
      ∃ occurrence,
        (rule.query none (.plain "es" "Español") rule.slots).occurrenceAt?
            (.ofWords ["a", "b"]) 1 = .ok (some occurrence) ∧
          (Template.ofText "\\2 \\1 \\2\\3 \\4 \\3").message
              (rule.valuesOf none (.plain "es" "Español") (.ofWords ["a", "b"]) occurrence) =
            .ok " a b " ∧
          IsSpacedOnce " a b ".toList ∧
          rule.suggestionsOf none (.plain "es" "Español") (.ofWords ["a", "b"]) occurrence true
              "\\2 \\1 \\2\\3 \\4 \\3" =
            .ok ["A b"] ∧
          IsSpacedOnce "A b".toList := by
  have read_eq : Template.ofText "\\2 \\1 \\2\\3 \\4 \\3" =
      ⟨[⟨[], ['2']⟩, ⟨[' '], ['1']⟩, ⟨[' '], ['2']⟩, ⟨[], ['3']⟩, ⟨[' '], ['4']⟩,
        ⟨[' '], ['3']⟩], []⟩ := by
    decide +kernel
  have followsOn : ∀ value ∈ ["", "a", "b"], FollowsOn value.toList := by decide
  apply Exists.intro
  refine ⟨?_, ⟨1, 3, [⟨0, 1, [0]⟩, ⟨3, 2, [0]⟩]⟩, ?_⟩
  · simp only [RuleSpec.compile, RuleSpec.named, RuleSpec.templates, List.flatMap_cons,
      List.flatMap_nil, ofText_empty, read_eq]
    rfl
  generalize rule_eq : Rule.mk _ _ _ _ _ _ _ _ _ _ _ = rule
  have found : (rule.query none (.plain "es" "Español") rule.slots).occurrenceAt?
      (.ofWords ["a", "b"]) 1 = .ok (some ⟨1, 3, [⟨0, 1, [0]⟩, ⟨3, 2, [0]⟩]⟩) := by
    subst rule_eq
    rw [Query.occurrenceAt?_eq_offers]
    decide +kernel
  have values_eq : ∀ reference ∈ (Template.ofText "\\2 \\1 \\2\\3 \\4 \\3").references,
      ∃ value ∈ ["", "a", "b"],
        rule.valuesOf none (.plain "es" "Español") (.ofWords ["a", "b"])
          ⟨1, 3, [⟨0, 1, [0]⟩, ⟨3, 2, [0]⟩]⟩ reference.number = .ok [value] := by
    subst rule_eq
    rw [read_eq]
    decide +kernel
  have expanded : (Template.ofText "\\2 \\1 \\2\\3 \\4 \\3").message
          (rule.valuesOf none (.plain "es" "Español") (.ofWords ["a", "b"])
            ⟨1, 3, [⟨0, 1, [0]⟩, ⟨3, 2, [0]⟩]⟩) = .ok " a b " ∧
      rule.suggestionsOf none (.plain "es" "Español") (.ofWords ["a", "b"])
          ⟨1, 3, [⟨0, 1, [0]⟩, ⟨3, 2, [0]⟩]⟩ true "\\2 \\1 \\2\\3 \\4 \\3" = .ok ["A b"] := by
    subst rule_eq
    rw [suggestionsOf_eq, read_eq]
    decide +kernel
  have literals : ∀ literal ∈ (Template.ofText "\\2 \\1 \\2\\3 \\4 \\3").literals,
      IsSpacedOnce literal := by
    rw [read_eq]
    exact (Template.ofText_eq_iff.mp read_eq).isSpacedOnce_iff.mp (by decide)
  obtain ⟨⟨message, message_eq, messageSpaced⟩, -, spaced⟩ :=
    isSpacedOnce_of_values rule none (.plain "es" "Español") (.ofWords ["a", "b"])
      ⟨1, 3, [⟨0, 1, [0]⟩, ⟨3, 2, [0]⟩]⟩ literals
      (fun reference member => by
        obtain ⟨value, listed, value_eq⟩ := values_eq reference member
        exact ⟨[value], value_eq, List.forall_mem_singleton.mpr (followsOn value listed)⟩)
  obtain ⟨suggestions, suggestions_eq, suggestionsSpaced⟩ :=
    spaced (Language.keepsSpacing_plain _ _) true
  cases expanded.1.symm.trans message_eq
  cases expanded.2.symm.trans suggestions_eq
  exact ⟨found, message_eq, messageSpaced, suggestions_eq,
    suggestionsSpaced _ (List.mem_singleton_self _)⟩

end Rule

end PhraseRules
