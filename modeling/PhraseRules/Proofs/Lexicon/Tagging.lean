import Mathlib.Data.List.Forall2
import PhraseRules.Proofs.Lexicon.Index
import PhraseRules.Proofs.Position

/-!
# Tagging with a lexicon

Tagging adds to each word the readings that a lexicon has for it.  None of these is a placeholder,
so that they follow the readings that the word had, without those that it had already, and a second
time nothing is added (`tag_adds_readings`).
-/

namespace PhraseRules

namespace Lexicon

/-- The readings that a lexicon has for a word. -/
def readingsOf (lexicon : Lexicon) (word : String) : List Reading :=
  (lexicon.lookup word).map fun entry => .tagged word entry.headword entry.tag

/--
How tagging changes a position.  It touches nothing but the readings, and not even these where the
sentence opens or where the lexicon does not know the word.  Elsewhere the readings stay, unless the
only one is a placeholder, and those of the lexicon that are not there yet follow them.
-/
structure Tags (lexicon : Lexicon) (before after : Position) : Prop where
  frame_eq : after = { before with readings := after.readings }
  unchanged : before.sentenceStart = true ∨ lexicon.contains before.text = false → after = before
  readings_eq : before.sentenceStart = false → lexicon.contains before.text = true →
    after.readings = (if before.IsBare then [] else before.readings) ++
      ((lexicon.readingsOf before.text).removeAll before.readings).eraseDups

variable {lexicon : Lexicon} {position : Position}

theorem tagPosition_of_sentenceStart (opens : position.sentenceStart = true) :
    lexicon.tagPosition position = position :=
  if_pos opens

theorem tagPosition_of_not_sentenceStart (within : position.sentenceStart = false) :
    lexicon.tagPosition position = position.addReadings (lexicon.readingsOf position.text) :=
  if_neg (by simp [within])

theorem isPlaceholder_of_mem_readingsOf {word : String} {reading : Reading}
    (member : reading ∈ lexicon.readingsOf word) : reading.isPlaceholder = false := by
  obtain ⟨entry, -, rfl⟩ := List.mem_map.mp member
  rfl

theorem IsIndexed.contains_eq_false_iff (indexed : lexicon.IsIndexed) (word : String) :
    lexicon.contains word = false ↔ lexicon.readingsOf word = [] := by
  rw [← Bool.not_eq_true, indexed.contains_iff, not_not, readingsOf, List.map_eq_nil_iff]

theorem tags_tagPosition (indexed : lexicon.IsIndexed) (position : Position) :
    lexicon.Tags position (lexicon.tagPosition position) := by
  cases opens : position.sentenceStart with
  | true =>
      rw [tagPosition_of_sentenceStart opens]
      exact {
        frame_eq := rfl
        unchanged := fun _ => rfl
        readings_eq := fun within => absurd opens (by simp [within]) }
  | false =>
      rw [tagPosition_of_not_sentenceStart opens]
      refine ⟨position.addReadings_eq _, ?_, fun _ known => ?_⟩
      · rintro (impossible | unknown)
        · rw [opens] at impossible
          cases impossible
        · rw [(indexed.contains_eq_false_iff _).mp unknown]
          rfl
      · refine Position.readings_addReadings (fun nothing => ?_)
          fun _ => isPlaceholder_of_mem_readingsOf
        rw [(indexed.contains_eq_false_iff _).mpr nothing] at known
        cases known

/-- What was tagged is not changed by tagging it again. -/
theorem tagPosition_tagPosition (lexicon : Lexicon) (position : Position) :
    lexicon.tagPosition (lexicon.tagPosition position) = lexicon.tagPosition position := by
  cases opens : position.sentenceStart with
  | true => rw [tagPosition_of_sentenceStart opens, tagPosition_of_sentenceStart opens]
  | false =>
      rw [tagPosition_of_not_sentenceStart opens]
      have frame_eq := position.addReadings_eq (lexicon.readingsOf position.text)
      rw [tagPosition_of_not_sentenceStart (by rw [frame_eq]; exact opens),
        show (position.addReadings (lexicon.readingsOf position.text)).text = position.text by
          rw [frame_eq],
        Position.addReadings_addReadings fun _ => isPlaceholder_of_mem_readingsOf]

/--
Tagging changes each position of a sentence as `Tags` says, and tagging a second time changes
nothing.
-/
theorem tag_adds_readings (inserted : List LexiconEntry) (sentence : Sentence) :
    let lexicon := ofEntries inserted
    List.Forall₂ lexicon.Tags sentence.positions (lexicon.tag sentence).positions ∧
      lexicon.tag (lexicon.tag sentence) = lexicon.tag sentence := by
  intro lexicon
  constructor
  · rw [tag, List.forall₂_map_right_iff, List.forall₂_same]
    exact fun position _ => tags_tagPosition (isIndexed_ofEntries inserted) position
  · rw [tag, tag, List.map_map]
    exact congrArg Sentence.mk
      (List.map_congr_left fun position _ => lexicon.tagPosition_tagPosition position)

/-- A noun that is listed in two cases gives one reading, and a reading that a word has is not added
to it. -/
theorem tag_adds_readings_of_two_cases :
    let lexicon := ofEntries
      [⟨"casa", "casa", "NCFS000"⟩, ⟨"Casa", "casa", "NCFS000"⟩, ⟨"casa", "casar", "VMIP3S0"⟩]
    let bare := Position.ofWord "Casa" 0
    let unknown := Position.ofWord "perro" 5
    let verb := (Position.ofWord "casa" 11).addReading (.tagged "casa" "casar" "VMIP3S0")
    lexicon.contains "Casa" = true ∧ lexicon.contains "perro" = false ∧
      (lexicon.tag ⟨[.opening, bare, unknown, verb]⟩).positions =
        [.opening,
          { bare with readings :=
              [.tagged "Casa" "casa" "NCFS000", .tagged "Casa" "casar" "VMIP3S0"] },
          unknown,
          { verb with readings :=
              [.tagged "casa" "casar" "VMIP3S0", .tagged "casa" "casa" "NCFS000"] }] := by
  intro lexicon bare unknown verb
  have indexed : lexicon.IsIndexed := isIndexed_ofEntries _
  have lookup_eq : ∀ word, lexicon.lookup word = _ := fun word => by
    rw [indexed.lookup_eq, entries_ofEntries]
  have knows : lexicon.contains "Casa" = true := by
    rw [indexed.contains_iff, lookup_eq]
    decide +kernel
  have lacks : lexicon.contains "perro" = false := by
    rw [indexed.contains_eq_false_iff, readingsOf, lookup_eq]
    decide +kernel
  refine ⟨knows, lacks, ?_⟩
  obtain ⟨tags, -⟩ := tag_adds_readings
    [⟨"casa", "casa", "NCFS000"⟩, ⟨"Casa", "casa", "NCFS000"⟩, ⟨"casa", "casar", "VMIP3S0"⟩]
    ⟨[.opening, bare, unknown, verb]⟩
  simp only [List.forall₂_cons_left_iff, List.forall₂_nil_left_iff] at tags
  obtain ⟨first, _, tagsFirst, ⟨second, _, tagsSecond, ⟨third, _, tagsThird, ⟨fourth, _,
    tagsFourth, rfl, rfl⟩, rfl⟩, rfl⟩, positions_eq⟩ := tags
  have knowsVerb : lexicon.contains "casa" = true := by
    rw [indexed.contains_iff, lookup_eq]
    decide +kernel
  have second_eq : second.readings =
      [.tagged "Casa" "casa" "NCFS000", .tagged "Casa" "casar" "VMIP3S0"] := by
    rw [tagsSecond.readings_eq rfl knows, readingsOf, lookup_eq]
    decide +kernel
  have fourth_eq : fourth.readings =
      [.tagged "casa" "casar" "VMIP3S0", .tagged "casa" "casa" "NCFS000"] := by
    rw [tagsFourth.readings_eq rfl knowsVerb, readingsOf, lookup_eq]
    decide +kernel
  rw [positions_eq, tagsFirst.unchanged (Or.inl rfl), tagsSecond.frame_eq, second_eq,
    tagsThird.unchanged (Or.inr lacks), tagsFourth.frame_eq, fourth_eq]

end Lexicon

end PhraseRules
