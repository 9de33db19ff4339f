import PhraseRules.Proofs.Distinct
import PhraseRules.Proofs.Rule.Failure
import PhraseRules.Proofs.Rule.Span

/-!
# The suggestions of a finding

The suggestions of a rule are those of its templates in order, and those of a template are the
choices of one value for each of its references.  The texts behind which there are still references
to fill are kept without repetitions, so that equal ones are not filled twice.
`Rule.finding_suggestions` says that this changes nothing: what comes out are the texts of all
choices, in lexicographic order, each where it comes up first.
-/

namespace PhraseRules

open PhraseRules.Outcome
open PhraseRules.Text
open PhraseRules.Unicode

/-! ## Choices -/

namespace Template

/-- The choices of a value for each of the references; that for the last one changes first. -/
def choices (values : Nat → List String) : List TemplateReference → List (List String)
  | [] => [[]]
  | reference :: later =>
      (values reference.number).flatMap fun value => (choices values later).map (value :: ·)

/-- Literal text behind another text.  Where two spaces would come together there is one. -/
def collapse (written literal : List Char) : List Char :=
  if written.getLast? = some ' ' ∧ literal.head? = some ' ' then written ++ literal.tail
  else written ++ literal

theorem appendLiteral_eq_collapse : appendLiteral = collapse := by
  funext written literal
  rw [appendLiteral, collapse, literalBehind.eq_def]
  split
  case h_1 rest => split <;> simp_all
  case h_2 noSpace =>
      have begins : literal.head? ≠ some ' ' := by
        cases literal with
        | nil => simp
        | cons c rest => exact fun equal => noSpace rest (by rw [Option.some.inj equal])
      rw [if_neg fun both => begins both.2]

/-- The text with a value in the place of each reference, behind what is written. -/
def spell (tail written : List Char) : List TemplateReference → List String → List Char
  | reference :: later, value :: chosen =>
      spell tail (collapse written reference.literal ++ value.toList) later chosen
  | _, _ => collapse written tail

/-- The texts of all choices, without blanks around them, and without those that are empty. -/
def product (values : Nat → List String) (template : Template) : List String :=
  let spelled := (choices values template.references).map
    (spell template.tail [] template.references)
  ((spelled.map trimChars).filter (!·.isEmpty)).map String.ofList

variable {Fault : Type} {valuesOf : Nat → Except Fault (List String)}
  {values : Nat → List String}

/-- What asks for the values of each reference in turn succeeds just if there are such values. -/
theorem exists_fill_eq_ok_iff {Written Filled : Type}
    {fill : Written → List TemplateReference → Except Fault Filled}
    (fill_nil : ∀ written, ∃ filled, fill written [] = .ok filled)
    (fill_cons : ∀ written reference later, ∃ write : List String → Written,
      fill written (reference :: later) =
        valuesOf reference.number >>= fun values => fill (write values) later)
    {written : Written} {references : List TemplateReference} :
    (∃ filled, fill written references = .ok filled) ↔
      ∀ reference ∈ references, ∃ values, valuesOf reference.number = .ok values := by
  induction references generalizing written with
  | nil => simpa using fill_nil written
  | cons reference later induction =>
      rcases fill_cons written reference later with ⟨write, fill_eq⟩
      rw [fill_eq, List.forall_mem_cons]
      constructor
      · rintro ⟨filled, filled_eq⟩
        rcases bind_eq_ok_iff.mp filled_eq with ⟨given, given_eq, filled_eq⟩
        exact ⟨⟨given, given_eq⟩, induction.mp ⟨filled, filled_eq⟩⟩
      · rintro ⟨⟨given, given_eq⟩, givenLater⟩
        rw [given_eq, ok_bind]
        exact induction.mpr givenLater

theorem exists_message_eq_ok_iff {template : Template} :
    (∃ message, template.message valuesOf = .ok message) ↔
      ∀ reference ∈ template.references, ∃ values, valuesOf reference.number = .ok values := by
  rw [message, exists_bind_eq_ok_iff]
  apply exists_fill_eq_ok_iff
  · exact fun _ => ⟨_, rfl⟩
  · exact fun _ _ _ => ⟨_, rfl⟩

theorem exists_suggestions_eq_ok_iff {template : Template} :
    (∃ suggestions, template.suggestions valuesOf = .ok suggestions) ↔
      ∀ reference ∈ template.references, ∃ values, valuesOf reference.number = .ok values := by
  rw [suggestions, exists_bind_eq_ok_iff]
  apply exists_fill_eq_ok_iff
  · exact fun _ => ⟨_, rfl⟩
  · exact fun _ _ _ => ⟨_, rfl⟩

/--
What has been written is taken on as it stands or without repetitions: the suggestions behind it
are, but for repetitions, those of all choices behind each of the texts.
-/
theorem agreesOnFirst_of_fillSuggestions {tail : List Char} {written filled : List (List Char)}
    {references : List TemplateReference}
    (given : ∀ reference ∈ references, ∀ found,
      valuesOf reference.number = .ok found → found = values reference.number)
    (filled_eq : fillSuggestions valuesOf tail written references = .ok filled) :
    AgreesOnFirst filled
      (written.flatMap fun text =>
        (choices values references).map (spell tail text references)) := by
  induction references generalizing written with
  | nil =>
      rcases Except.ok.inj filled_eq with rfl
      rw [appendLiteral_eq_collapse, List.map_eq_flatMap]
      exact fun _ => rfl
  | cons reference later induction =>
      rcases bind_eq_ok_iff.mp filled_eq with ⟨found, found_eq, filled_eq⟩
      rcases given reference List.mem_cons_self found found_eq with rfl
      have agrees := induction
        (fun other member => given other (List.mem_cons_of_mem _ member)) filled_eq
      have extended_eq :
          (written.flatMap fun text =>
            (values reference.number).map fun value =>
              collapse text reference.literal ++ value.toList).flatMap
            (fun text => (choices values later).map (spell tail text later)) =
          written.flatMap fun text =>
            (choices values (reference :: later)).map (spell tail text (reference :: later)) := by
        simp only [choices, List.flatMap_assoc, List.flatMap_map, List.map_flatMap, List.map_map]
        rfl
      intro seen
      rw [agrees seen, extendAll, AgreesOnFirst.flatMap_distinct, appendLiteral_eq_collapse,
        extended_eq]

/-- But for repetitions, the suggestions of a template are the texts of all choices. -/
theorem agreesOnFirst_of_suggestions {template : Template} {suggestions : List String}
    (given : ∀ reference ∈ template.references, ∀ found,
      valuesOf reference.number = .ok found → found = values reference.number)
    (suggestions_eq : template.suggestions valuesOf = .ok suggestions) :
    AgreesOnFirst suggestions (template.product values) := by
  rcases bind_eq_ok_iff.mp suggestions_eq with ⟨filled, filled_eq, equal⟩
  rcases Except.ok.inj equal with rfl
  have agrees := agreesOnFirst_of_fillSuggestions given filled_eq
  rw [List.flatMap_singleton] at agrees
  exact ((agrees.map trimChars).filter _).map String.ofList

end Template

/-! ## Case -/

theorem toUppercase_ne_nil (c : Char) : toUppercase c ≠ [] := by
  have expands : ∀ expansion ∈ uppercaseExpansions, expansion.2 ≠ [] := by decide
  rw [toUppercase, mapCase]
  split
  case h_1 => exact List.cons_ne_nil _ _
  case h_2 =>
      split
      case h_1 images images_eq =>
          rw [Ne, List.map_eq_nil_iff]
          rcases List.lookup_eq_some_iff.mp images_eq with ⟨before, behind, listed, -⟩
          exact expands (c.toNat, images) (listed ▸ List.mem_append_right _ List.mem_cons_self)
      case h_2 => exact List.cons_ne_nil _ _

theorem uppercaseInitial_ne_empty {text : String} (nonempty : text ≠ "") :
    uppercaseInitial text ≠ "" := by
  rw [uppercaseInitial]
  split
  case h_1 noChars => exact absurd (String.toList_eq_nil_iff.mp noChars) nonempty
  case h_2 c rest _ =>
      rw [Ne, String.ofList_eq_empty_iff, List.append_eq_nil_iff]
      exact fun equal => toUppercase_ne_nil c equal.1

namespace Language

/-- No text is lost when its first letter gets uppercase. -/
def KeepsTexts (language : Language) : Prop :=
  ∀ text, text ≠ "" → language.uppercaseFirst text ≠ ""

theorem keepsTexts_plain (code name : String) : (plain code name).KeepsTexts :=
  fun _ => uppercaseInitial_ne_empty

theorem keepsTexts_dutch : dutch.KeepsTexts := by
  intro text nonempty
  change uppercaseDigraph text ≠ ""
  rw [uppercaseDigraph]
  split
  case h_1 =>
      split
      case isTrue => exact fun equal => by cases String.ofList_eq_empty_iff.mp equal
      case isFalse => exact uppercaseInitial_ne_empty nonempty
  case h_2 => exact uppercaseInitial_ne_empty nonempty

/-- What holds of Dutch and of all languages without rules of their own holds of those that a code
stands for. -/
theorem of_known {property : Language → Prop} {code : String} {language : Language}
    (plains : ∀ code name, property (plain code name)) (ofDutch : property dutch)
    (known : ofCode? code = some language) : property language := by
  unfold ofCode? at known
  split_ifs at known <;> cases known
  all_goals first
    | exact ofDutch
    | exact plains _ _

/-- Of the languages that have a code none loses a text. -/
theorem keepsTexts_of_known {code : String} {language : Language}
    (known : ofCode? code = some language) : language.KeepsTexts :=
  of_known keepsTexts_plain keepsTexts_dutch known

end Language

theorem Sentence.textOfPositions_empty_cons (position : Position) (later : List Position) :
    textOfPositions "" (position :: later) = textOfPositions position.text later := by
  simp [textOfPositions]

/-- A text goes on in the case in which it begins. -/
theorem Sentence.startsUppercase_textOfPositions {written : String} (nonempty : written ≠ "")
    (later : List Position) :
    startsUppercase (textOfPositions written later) = startsUppercase written := by
  induction later generalizing written with
  | nil => rfl
  | cons position others induction =>
      have chars_ne : written.toList ≠ [] :=
        fun equal => nonempty (String.toList_eq_nil_iff.mp equal)
      rw [textOfPositions, induction]
      · rw [startsUppercase, String.append_assoc, String.toList_append,
          List.head?_append_of_ne_nil _ chars_ne, startsUppercase]
      · rw [String.append_assoc, Ne, String.append_eq_empty_iff]
        exact fun equal => nonempty equal.1

/-! ## Findings -/

namespace Rule

variable {rule : Rule} {sentence : Sentence} {synthesizer : Option Synthesizer}
  {language : Language} {start : Nat} {occurrence : Occurrence} {finding : Finding}

/-- The values of a reference, as far as the synthesizer answers. -/
def valuesGiven (rule : Rule) (synthesizer : Option Synthesizer) (language : Language)
    (sentence : Sentence) (occurrence : Occurrence) (number : Nat) : List String :=
  (rule.valuesOf synthesizer language sentence occurrence number).toOption.getD []

/-- The texts of all choices for a template, changed by `raise` if suggestions are to begin in
uppercase and the template does not decide about case itself. -/
def suggestionChoices (rule : Rule) (values : Nat → List String) (uppercase : Bool)
    (raise : String → String) (text : String) : List String :=
  let texts := (Template.ofText text).product values
  if uppercase && !rule.beginsWithConversion (Template.ofText text) then texts.map raise else texts

/-- The texts of all choices for all templates, each where it comes up first. -/
def suggestionProduct (rule : Rule) (values : Nat → List String) (uppercase : Bool)
    (raise : String → String) : List String :=
  distinct (rule.suggestions.flatMap (rule.suggestionChoices values uppercase raise))

/-- Whether suggestions are to begin in uppercase: the first of the marked words decides. -/
def beginsUppercase (rule : Rule) (sentence : Sentence) (occurrence : Occurrence) : Bool :=
  let (first, last) := rule.markedSpan occurrence
  startsUppercase (caseSample sentence.positions first last)

/-- The marked words as they stand in the sentence. -/
def markedText (rule : Rule) (sentence : Sentence) (occurrence : Occurrence) : String :=
  let (first, last) := rule.markedSpan occurrence
  Sentence.textOfPositions "" ((sentence.positions.take last).drop first)

/-- No marked word is empty but the opening of the sentence, if that is marked too. -/
def MarksNoGap (rule : Rule) (sentence : Sentence) (occurrence : Occurrence) : Prop :=
  let (first, last) := rule.markedSpan occurrence
  ∀ index ∈ List.range' first (last - first),
    ((sentence.positions[index]?.getD default).text = "" ↔
      index = first ∧ (sentence.positions[index]?.getD default).sentenceStart = true)
deriving Decidable

theorem suggestionsOf_eq (uppercase : Bool) (text : String) :
    rule.suggestionsOf synthesizer language sentence occurrence uppercase text =
      ((Template.ofText text).suggestions
          (rule.valuesOf synthesizer language sentence occurrence)).map fun suggestions =>
        if uppercase && !rule.beginsWithConversion (Template.ofText text) then
          suggestions.map language.uppercaseFirst
        else suggestions := by
  rw [suggestionsOf]
  cases (Template.ofText text).suggestions
    (rule.valuesOf synthesizer language sentence occurrence) with
  | error fault => rfl
  | ok suggestions =>
      rw [ok_bind, map_ok]
      split
      case isTrue => rfl
      case isFalse => rfl

/-- An occurrence is reported just if all that the texts of the rule refer to has values. -/
theorem exists_finding_eq_ok_iff :
    (∃ finding, rule.finding synthesizer language sentence occurrence = .ok finding) ↔
      ∀ text ∈ rule.message :: rule.shortMessage :: rule.suggestions,
        ∀ reference ∈ (Template.ofText text).references, ∃ values,
          rule.valuesOf synthesizer language sentence occurrence reference.number =
            .ok values := by
  rw [List.forall_mem_cons, List.forall_mem_cons, ← Template.exists_message_eq_ok_iff,
    ← Template.exists_message_eq_ok_iff]
  constructor
  · rintro ⟨finding, finding_eq⟩
    rcases bind_eq_ok_iff.mp finding_eq with ⟨message, message_eq, finding_eq⟩
    rcases bind_eq_ok_iff.mp finding_eq with ⟨shortMessage, shortMessage_eq, finding_eq⟩
    rcases bind_eq_ok_iff.mp finding_eq with ⟨suggested, suggested_eq, -⟩
    refine ⟨⟨message, message_eq⟩, ⟨shortMessage, shortMessage_eq⟩, fun text member => ?_⟩
    rcases exists_of_forall₂ (mapM_eq_ok_iff.mp suggested_eq) member with ⟨texts, -, texts_eq⟩
    rw [suggestionsOf_eq, map_eq_ok_iff] at texts_eq
    rcases texts_eq with ⟨suggestions, suggestions_eq, -⟩
    exact Template.exists_suggestions_eq_ok_iff.mp ⟨suggestions, suggestions_eq⟩
  · rintro ⟨⟨message, message_eq⟩, ⟨shortMessage, shortMessage_eq⟩, given⟩
    have succeeds : ∀ text ∈ rule.suggestions, ∃ texts,
        rule.suggestionsOf synthesizer language sentence occurrence
          (rule.beginsUppercase sentence occurrence) text = .ok texts := by
      intro text member
      rcases Template.exists_suggestions_eq_ok_iff.mpr (given text member) with
        ⟨suggestions, suggestions_eq⟩
      exact ⟨_, by rw [suggestionsOf_eq, suggestions_eq, map_ok]⟩
    rcases exists_mapM_eq_ok succeeds with ⟨suggested, suggested_eq⟩
    exact ⟨_, bind_eq_ok_iff.mpr ⟨message, message_eq, bind_eq_ok_iff.mpr
      ⟨shortMessage, shortMessage_eq, bind_eq_ok_iff.mpr ⟨suggested, suggested_eq, rfl⟩⟩⟩⟩

/-- The suggestions that are reported are those of all choices, once each. -/
theorem suggestions_eq_suggestionProduct
    (reported : rule.finding synthesizer language sentence occurrence = .ok finding) :
    finding.suggestions =
      rule.suggestionProduct (rule.valuesGiven synthesizer language sentence occurrence)
        (rule.beginsUppercase sentence occurrence) language.uppercaseFirst := by
  rw [Rule.finding] at reported
  rcases bind_eq_ok_iff.mp reported with ⟨message, -, reported⟩
  rcases bind_eq_ok_iff.mp reported with ⟨shortMessage, -, reported⟩
  rcases bind_eq_ok_iff.mp reported with ⟨suggested, suggested_eq, equal⟩
  rcases Except.ok.inj equal with rfl
  have agrees : ∀ text suggestions,
      rule.suggestionsOf synthesizer language sentence occurrence
          (rule.beginsUppercase sentence occurrence) text = .ok suggestions →
        AgreesOnFirst suggestions
          (rule.suggestionChoices (rule.valuesGiven synthesizer language sentence occurrence)
            (rule.beginsUppercase sentence occurrence) language.uppercaseFirst text) := by
    intro text suggestions suggestions_eq
    rw [suggestionsOf_eq, map_eq_ok_iff] at suggestions_eq
    rcases suggestions_eq with ⟨plain, plain_eq, rfl⟩
    have given : ∀ reference ∈ (Template.ofText text).references, ∀ found,
        rule.valuesOf synthesizer language sentence occurrence reference.number = .ok found →
          found = rule.valuesGiven synthesizer language sentence occurrence reference.number := by
      intro reference _ found found_eq
      rw [valuesGiven, found_eq]
      rfl
    have agrees := Template.agreesOnFirst_of_suggestions given plain_eq
    rw [suggestionChoices]
    split
    case isTrue => exact agrees.map _
    case isFalse => exact agrees
  refine AgreesOnFirst.flatten ?_ []
  rw [List.forall₂_map_right_iff]
  exact (mapM_eq_ok_iff.mp suggested_eq).flip.imp fun suggestions text => agrees text suggestions

theorem ne_empty_of_mem_suggestionProduct (keeps : language.KeepsTexts)
    {values : Nat → List String} {uppercase : Bool} {suggestion : String}
    (member : suggestion ∈ rule.suggestionProduct values uppercase language.uppercaseFirst) :
    suggestion ≠ "" := by
  have product_ne : ∀ template, ∀ text ∈ Template.product values template, text ≠ "" := by
    intro template text member
    rcases List.mem_map.mp member with ⟨chars, kept, rfl⟩
    have chars_ne := (List.mem_filter.mp kept).2
    rw [Ne, String.ofList_eq_empty_iff]
    rintro rfl
    cases chars_ne
  rw [suggestionProduct, mem_distinct_iff, List.mem_flatMap] at member
  rcases member with ⟨text, -, member⟩
  rw [suggestionChoices] at member
  split at member
  case isTrue =>
      rcases List.mem_map.mp member with ⟨chosen, listed, rfl⟩
      exact keeps chosen (product_ne _ chosen listed)
  case isFalse => exact product_ne _ suggestion member

/-- A stretch of positions begins with the first of them. -/
theorem drop_take_eq_cons {positions : List Position} {index last : Nat} (inside : index < last)
    (last_le_length : last ≤ positions.length) :
    (positions.take last).drop index =
      positions[index]?.getD default :: (positions.take last).drop (index + 1) := by
  have within : index < (positions.take last).length := by
    rw [List.length_take_of_le last_le_length]
    exact inside
  rw [List.drop_eq_getElem_cons within, List.getElem_take,
    List.getElem?_eq_getElem (inside.trans_le last_le_length), Option.getD_some]

/-- The first marked word decides like all of them, unless one is empty. -/
theorem beginsUppercase_eq {query : Query}
    (found : query.occurrenceAt? sentence start = .ok (some occurrence))
    (noGap : rule.MarksNoGap sentence occurrence) :
    rule.beginsUppercase sentence occurrence =
      startsUppercase (rule.markedText sentence occurrence) := by
  rcases markedSpan_within rule found with ⟨first_lt, last_le⟩
  have last_le_length := last_le.trans (Query.meets_of_occurrenceAt? found).stop_le_length
  rw [beginsUppercase, markedText]
  rw [MarksNoGap] at noGap
  generalize rule.markedSpan occurrence = span at noGap first_lt last_le_length
  obtain ⟨first, last⟩ := span
  dsimp only at noGap first_lt last_le_length ⊢
  have text_iff {index : Nat} (behind : first ≤ index) (inside : index < last) :
      (sentence.positions[index]?.getD default).text = "" ↔
        index = first ∧ (sentence.positions[index]?.getD default).sentenceStart = true :=
    noGap index (List.mem_range'_1.mpr ⟨behind, by omega⟩)
  have opening_iff := text_iff (Nat.le_refl first) first_lt
  rw [drop_take_eq_cons first_lt last_le_length, Sentence.textOfPositions_empty_cons, caseSample]
  generalize sentence.positions[first]?.getD default = opening at opening_iff
  by_cases opens : opening.sentenceStart = true
  · -- the opening is empty, so that the marked text begins with the word behind it, if any
    rw [opens, Bool.true_and, opening_iff.mpr ⟨rfl, opens⟩]
    split
    case isTrue goesOn =>
        have inside := of_decide_eq_true goesOn
        have word_ne : (sentence.positions[first + 1]?.getD default).text ≠ "" := fun empty =>
          absurd ((text_iff (Nat.le_succ first) inside).mp empty).1 (Nat.succ_ne_self first)
        rw [drop_take_eq_cons inside last_le_length, Sentence.textOfPositions_empty_cons,
          Sentence.startsUppercase_textOfPositions word_ne]
    case isFalse stops =>
        have nothing : (sentence.positions.take last).drop (first + 1) = [] :=
          List.drop_eq_nil_of_le ((List.length_take_le _ _).trans
            (Nat.le_of_not_lt fun goesOn => stops (decide_eq_true goesOn)))
        rw [nothing, Sentence.textOfPositions]
  · have opening_ne : opening.text ≠ "" := fun empty => opens (opening_iff.mp empty).2
    rw [Bool.eq_false_iff.mpr opens, Bool.false_and, if_neg Bool.false_ne_true,
      Sentence.startsUppercase_textOfPositions opening_ne]

/--
An occurrence is reported just if all references in the texts of the rule have values.  The
suggestions are then the texts of all choices, for the templates in order and for each one in
lexicographic order, once each; none is empty unless the language makes it so.  They begin in
uppercase where the first marked word does, which is where the marked text does unless a marked word
is empty.
-/
theorem finding_suggestions
    (found : (rule.query synthesizer language rule.slots).occurrenceAt? sentence start =
      .ok (some occurrence)) :
    ((∃ finding, rule.finding synthesizer language sentence occurrence = .ok finding) ↔
      ∀ text ∈ rule.message :: rule.shortMessage :: rule.suggestions,
        ∀ reference ∈ (Template.ofText text).references, ∃ values,
          rule.valuesOf synthesizer language sentence occurrence reference.number =
            .ok values) ∧
    (∀ finding, rule.finding synthesizer language sentence occurrence = .ok finding →
      finding.suggestions =
          rule.suggestionProduct (rule.valuesGiven synthesizer language sentence occurrence)
            (rule.beginsUppercase sentence occurrence) language.uppercaseFirst ∧
        finding.suggestions.Nodup ∧
        (language.KeepsTexts → ∀ suggestion ∈ finding.suggestions, suggestion ≠ "")) ∧
    (rule.MarksNoGap sentence occurrence →
      rule.beginsUppercase sentence occurrence =
        startsUppercase (rule.markedText sentence occurrence)) := by
  refine ⟨exists_finding_eq_ok_iff, fun finding reported => ?_, beginsUppercase_eq found⟩
  rw [suggestions_eq_suggestionProduct reported]
  exact ⟨rfl, nodup_distinct _, fun keeps suggestion => ne_empty_of_mem_suggestionProduct keeps⟩

/-- Two references have two forms each, and choices of other forms give the same text.  Between them
a word is left out, and with it the space before it. -/
theorem finding_suggestions_of_coinciding_choices :
    ∃ rule,
      { RuleSpec.named "COSA" with
          slots := [{ SlotSpec.word "Una" with caseSensitive := true },
            { SlotSpec.word "gran" with least := 0 },
            { SlotSpec.word "cosa" with caseSensitive := true }]
          suggestions := ["\\1 \\2 \\3", "\\1 c"]
          renderings := [
            { Rendering.ofSlot 1 with tag := some (.literal "N" true), headword := some "uno" },
            { Rendering.ofSlot 3 with tag := some (.literal "N" true), headword := some "dos" }]
          }.compile = .ok rule ∧
      ∃ synthesizer : Synthesizer, synthesizer = (fun headword _ =>
        .ok (if headword = "uno" then ["a", "a b"] else ["b c", "c"])) ∧
      ∃ occurrence finding, (rule.query (some synthesizer) (.plain "es" "Español")
          rule.slots).occurrenceAt? (.ofWords ["Una", "cosa"]) 1 = .ok (some occurrence) ∧
        rule.finding (some synthesizer) (.plain "es" "Español") (.ofWords ["Una", "cosa"])
            occurrence = .ok finding ∧
        finding.suggestions = ["A b c", "A c", "A b b c"] ∧
        (∀ suggestion ∈ finding.suggestions, suggestion ≠ "") ∧
        startsUppercase (rule.markedText (.ofWords ["Una", "cosa"]) occurrence) = true ∧
        rule.suggestionProduct
            (rule.valuesGiven (some synthesizer) (.plain "es" "Español")
              (.ofWords ["Una", "cosa"]) occurrence)
            true (Language.plain "es" "Español").uppercaseFirst =
          ["A b c", "A c", "A b b c"] := by
  have first_eq : Template.ofText "\\1 \\2 \\3" =
      ⟨[⟨[], ['1']⟩, ⟨[' '], ['2']⟩, ⟨[' '], ['3']⟩], []⟩ := by
    decide +kernel
  have second_eq : Template.ofText "\\1 c" = ⟨[⟨[], ['1']⟩], [' ', 'c']⟩ := by
    decide +kernel
  apply Exists.intro
  refine ⟨?_, ?_⟩
  · simp only [RuleSpec.compile, RuleSpec.named, RuleSpec.templates, List.flatMap_cons,
      List.flatMap_nil, ofText_empty, first_eq, second_eq]
    rfl
  generalize rule_eq : Rule.mk _ _ _ _ _ _ _ _ _ _ _ = rule
  refine ⟨_, rfl, ⟨1, 3, [⟨0, 1, [0]⟩, ⟨2, 2, [0]⟩]⟩,
    ⟨"COSA", 0, 8, 1, 3, 0, 8, "", "", ["A b c", "A c", "A b b c"]⟩, ?_⟩
  generalize synthesizer_eq : (fun headword _ =>
    .ok (if headword = "uno" then ["a", "a b"] else ["b c", "c"]) : Synthesizer) = synthesizer
  have found : (rule.query (some synthesizer) (.plain "es" "Español") rule.slots).occurrenceAt?
      (.ofWords ["Una", "cosa"]) 1 = .ok (some ⟨1, 3, [⟨0, 1, [0]⟩, ⟨2, 2, [0]⟩]⟩) := by
    subst rule_eq synthesizer_eq
    rw [Query.occurrenceAt?_eq_offers]
    decide +kernel
  have reported : rule.finding (some synthesizer) (.plain "es" "Español")
      (.ofWords ["Una", "cosa"]) ⟨1, 3, [⟨0, 1, [0]⟩, ⟨2, 2, [0]⟩]⟩ =
        .ok ⟨"COSA", 0, 8, 1, 3, 0, 8, "", "", ["A b c", "A c", "A b b c"]⟩ := by
    subst rule_eq synthesizer_eq
    decide +kernel
  have raised : startsUppercase (rule.markedText (.ofWords ["Una", "cosa"])
      ⟨1, 3, [⟨0, 1, [0]⟩, ⟨2, 2, [0]⟩]⟩) = true := by
    subst rule_eq
    decide +kernel
  have noGap : rule.MarksNoGap (.ofWords ["Una", "cosa"])
      ⟨1, 3, [⟨0, 1, [0]⟩, ⟨2, 2, [0]⟩]⟩ := by
    subst rule_eq
    decide +kernel
  obtain ⟨-, suggests, begins⟩ := finding_suggestions found
  obtain ⟨suggestions_eq, -, nonempty⟩ := suggests _ reported
  rw [begins noGap, raised] at suggestions_eq
  exact ⟨found, reported, rfl, nonempty (Language.keepsTexts_plain _ _), raised,
    suggestions_eq.symm⟩

/--
It is not the marked text that decides about the case, nor is just the first character changed: an
empty word before the first one that can be read leaves suggestions as they are, and in Dutch an
initial `ij` is one letter.
-/
theorem exists_finding_suggestions_ne :
    (∃ rule, { RuleSpec.named "R" with
        slots := [SlotSpec.anyWord, { SlotSpec.word "Hola" with caseSensitive := true }]
        suggestions := ["adiós"] }.compile = .ok rule ∧
      ∃ occurrence finding,
        (rule.query none (.plain "es" "Español") rule.slots).occurrenceAt?
            ⟨[.opening, .ofWord "" 0, .ofWord "Hola" 0]⟩ 1 = .ok (some occurrence) ∧
          rule.finding none (.plain "es" "Español")
            ⟨[.opening, .ofWord "" 0, .ofWord "Hola" 0]⟩ occurrence = .ok finding ∧
          rule.markedText ⟨[.opening, .ofWord "" 0, .ofWord "Hola" 0]⟩ occurrence = "Hola" ∧
          finding.suggestions = ["adiós"] ∧
          rule.suggestionProduct
              (rule.valuesGiven none (.plain "es" "Español")
                ⟨[.opening, .ofWord "" 0, .ofWord "Hola" 0]⟩ occurrence)
              (startsUppercase (rule.markedText
                ⟨[.opening, .ofWord "" 0, .ofWord "Hola" 0]⟩ occurrence)) uppercaseInitial =
            ["Adiós"]) ∧
    (∃ rule, { RuleSpec.named "R" with
        slots := [{ SlotSpec.word "Eis" with caseSensitive := true }]
        suggestions := ["ijs"] }.compile = .ok rule ∧
      ∃ occurrence finding,
        (rule.query none .dutch rule.slots).occurrenceAt?
            (.ofWords ["Eis"]) 1 = .ok (some occurrence) ∧
          rule.finding none .dutch (.ofWords ["Eis"]) occurrence =
            .ok finding ∧
          rule.markedText (.ofWords ["Eis"]) occurrence = "Eis" ∧
          finding.suggestions = ["IJs"] ∧
          rule.suggestionProduct
              (rule.valuesGiven none .dutch (.ofWords ["Eis"]) occurrence)
              (startsUppercase (rule.markedText (.ofWords ["Eis"]) occurrence))
              uppercaseInitial =
            ["Ijs"]) := by
  constructor
  · have read_eq : Template.ofText "adiós" = ⟨[], "adiós".toList⟩ := by decide +kernel
    apply Exists.intro
    refine ⟨?_, ⟨1, 3, [⟨0, 1, [0]⟩, ⟨1, 2, [0]⟩]⟩,
      ⟨"R", 0, 4, 1, 3, 0, 4, "", "", ["adiós"]⟩, ?_⟩
    · simp only [RuleSpec.compile, RuleSpec.named, RuleSpec.templates, List.flatMap_cons,
        List.flatMap_nil, ofText_empty, read_eq]
      rfl
    · rw [Query.occurrenceAt?_eq_offers]
      decide +kernel
  · have read_eq : Template.ofText "ijs" = ⟨[], "ijs".toList⟩ := by decide +kernel
    apply Exists.intro
    refine ⟨?_, ⟨1, 2, [⟨0, 1, [0]⟩]⟩, ⟨"R", 0, 3, 1, 2, 0, 3, "", "", ["IJs"]⟩, ?_⟩
    · simp only [RuleSpec.compile, RuleSpec.named, RuleSpec.templates, List.flatMap_cons,
        List.flatMap_nil, ofText_empty, read_eq]
      rfl
    · rw [Query.occurrenceAt?_eq_offers]
      decide +kernel

end Rule

end PhraseRules
