import Mathlib.Data.List.Nodup
import PhraseRules.Checker
import PhraseRules.Proofs.Disambiguation
import PhraseRules.Proofs.Position
import PhraseRules.Proofs.Sentence.Faultless

/-!
# Stages of an analysis

Tagging adds readings and disambiguation drops some.  Neither touches the frame of a position, and
neither leaves one without readings or with a reading twice: every stage of an analysis leads to a
sentence that `Sentence.KeepsAnalysis`.  So what is `Sentence.IsWellFormed` stays so, and words stay
in their places.
-/

namespace PhraseRules

/-! ## Positions -/

namespace Position

/-- The position has readings, each of them once. -/
structure IsAnalysed (position : Position) : Prop where
  nonempty : position.readings ≠ []
  distinct : position.readings.Nodup

/-- The position stands as before, and is analysed if it was. -/
structure KeepsAnalysis (before after : Position) : Prop where
  sharesFrame : before.SharesFrame after
  isAnalysed : before.IsAnalysed → after.IsAnalysed

variable {position first second third : Position}

theorem IsAnalysed.of_readings_eq {reading : Reading}
    (readings_eq : position.readings = [reading]) : position.IsAnalysed where
  nonempty := by
    rw [readings_eq]
    exact List.cons_ne_nil reading []
  distinct := by
    rw [readings_eq]
    exact List.nodup_singleton reading

theorem IsAnalysed.addReading (analysed : position.IsAnalysed) (reading : Reading) :
    (position.addReading reading).IsAnalysed where
  nonempty := List.ne_nil_of_mem (position.mem_readings_addReading reading)
  distinct := by
    rw [readings_addReading]
    exact nodup_append_distinctBeyond (analysed.distinct.sublist position.keptReadings_sublist) _

namespace KeepsAnalysis

theorem refl (position : Position) : position.KeepsAnalysis position where
  sharesFrame := .refl position
  isAnalysed := id

theorem trans (keeps : first.KeepsAnalysis second) (keepsOn : second.KeepsAnalysis third) :
    first.KeepsAnalysis third where
  sharesFrame := keeps.sharesFrame.trans keepsOn.sharesFrame
  isAnalysed := keepsOn.isAnalysed ∘ keeps.isAnalysed

end KeepsAnalysis

theorem keepsAnalysis_addReading (position : Position) (reading : Reading) :
    position.KeepsAnalysis (position.addReading reading) where
  sharesFrame := rfl
  isAnalysed := fun analysed => analysed.addReading reading

theorem keepsAnalysis_addReadings (position : Position) (readings : List Reading) :
    position.KeepsAnalysis (position.addReadings readings) := by
  induction readings generalizing position with
  | nil => exact .refl position
  | cons reading later induction =>
      exact (position.keepsAnalysis_addReading reading).trans (induction _)

theorem Narrows.keepsAnalysis (narrows : first.Narrows second) : first.KeepsAnalysis second where
  sharesFrame := narrows.sharesFrame
  isAnalysed := fun analysed =>
    ⟨narrows.nonempty analysed.nonempty, analysed.distinct.sublist narrows.sublist⟩

end Position

/-! ## Sentences -/

namespace Sentence

/-- The positions make a sentence, and none has a reading twice. -/
structure IsWellFormed (sentence : Sentence) : Prop extends IsFaultless sentence.positions where
  distinct : ∀ position ∈ sentence.positions, position.readings.Nodup

/-- The positions stand as before, and each is analysed if it was. -/
def KeepsAnalysis (before after : Sentence) : Prop :=
  List.Forall₂ Position.KeepsAnalysis before.positions after.positions

variable {sentence result : Sentence}

namespace IsWellFormed

theorem isAnalysed (wellFormed : sentence.IsWellFormed) {position : Position}
    (standing : position ∈ sentence.positions) : position.IsAnalysed :=
  ⟨wellFormed.analysed position standing, wellFormed.distinct position standing⟩

theorem of_isAnalysed
    (opens : ∃ first later, sentence.positions = first :: later ∧ first.sentenceStart = true)
    (ordered : sentence.positions.Pairwise fun former latter => former.start ≤ latter.start)
    (analysed : ∀ position ∈ sentence.positions, position.IsAnalysed) : sentence.IsWellFormed where
  opens := opens
  ordered := ordered
  analysed := fun position standing => (analysed position standing).nonempty
  distinct := fun position standing => (analysed position standing).distinct

end IsWellFormed

namespace KeepsAnalysis

theorem of_getElem? (length_eq : result.length = sentence.length)
    (each : ∀ (place : Nat) before, sentence.positions[place]? = some before →
      ∃ after, result.positions[place]? = some after ∧ before.KeepsAnalysis after) :
    sentence.KeepsAnalysis result := by
  refine List.forall₂_iff_get.mpr ⟨length_eq.symm, fun place inside insideResult => ?_⟩
  obtain ⟨after, after_eq, keeps⟩ := each place _ (List.getElem?_eq_getElem inside)
  rw [List.getElem?_eq_getElem insideResult] at after_eq
  cases after_eq
  exact keeps

theorem refl (sentence : Sentence) : sentence.KeepsAnalysis sentence :=
  List.forall₂_same.mpr fun position _ => .refl position

theorem trans {last : Sentence} (keeps : sentence.KeepsAnalysis result)
    (keepsOn : result.KeepsAnalysis last) : sentence.KeepsAnalysis last := by
  obtain ⟨length_eq, each⟩ := List.forall₂_iff_get.mp keeps
  obtain ⟨lengthOn_eq, eachOn⟩ := List.forall₂_iff_get.mp keepsOn
  refine List.forall₂_iff_get.mpr ⟨length_eq.trans lengthOn_eq, fun place inside insideLast => ?_⟩
  have insideResult : place < result.positions.length := length_eq ▸ inside
  exact (each place inside insideResult).trans (eachOn place insideResult insideLast)

/-- What depends on the frame alone is the same at each position. -/
theorem map_eq {α : Type} {view : Position → α}
    (same : ∀ before after : Position, before.SharesFrame after → view after = view before)
    (keeps : sentence.KeepsAnalysis result) :
    result.positions.map view = sentence.positions.map view := by
  rw [← List.forall₂_eq_eq_eq, List.forall₂_map_left_iff, List.forall₂_map_right_iff]
  exact keeps.flip.imp fun after before kept => same before after kept.sharesFrame

theorem isWellFormed (keeps : sentence.KeepsAnalysis result) (wellFormed : sentence.IsWellFormed) :
    result.IsWellFormed := by
  apply IsWellFormed.of_isAnalysed
  · obtain ⟨first, later, positions_eq, opens⟩ := wellFormed.opens
    rw [KeepsAnalysis, positions_eq] at keeps
    obtain ⟨revised, others, kept, -, result_eq⟩ := List.forall₂_cons_left_iff.mp keeps
    exact ⟨revised, others, result_eq, kept.sharesFrame.sentenceStart_eq.trans opens⟩
  · have starts : (sentence.positions.map (·.start)).Pairwise (· ≤ ·) :=
      List.pairwise_map.mpr wellFormed.ordered
    rw [← keeps.map_eq fun _ _ shares => shares.start_eq] at starts
    exact List.pairwise_map.mp starts
  · intro after standing
    obtain ⟨before, member, kept⟩ := Outcome.exists_of_forall₂ keeps.flip standing
    exact kept.isAnalysed (wellFormed.isAnalysed member)

end KeepsAnalysis

end Sentence

/-! ## Stages -/

theorem Lexicon.keepsAnalysis_tagPosition (lexicon : Lexicon) (position : Position) :
    position.KeepsAnalysis (lexicon.tagPosition position) := by
  rw [tagPosition]
  split
  case isTrue => exact .refl position
  case isFalse => exact position.keepsAnalysis_addReadings _

/-- A checker tags a sentence if it has a lexicon, and disambiguates it if that succeeds. -/
theorem Checker.exists_tagged_of_analyzeSentence (checker : Checker) (sentence : Sentence) :
    ∃ tagged, (tagged = sentence ∨ ∃ lexicon : Lexicon, tagged = lexicon.tag sentence) ∧
      (checker.analyzeSentence sentence = tagged ∨
        disambiguate checker.disambiguation checker.language tagged =
          .ok (checker.analyzeSentence sentence)) := by
  unfold analyzeSentence
  extract_lets tagged
  refine ⟨tagged, ?_, ?_⟩
  · subst tagged
    split
    case h_1 lexicon _ => exact Or.inr ⟨lexicon, rfl⟩
    case h_2 => exact Or.inl rfl
  · split
    case h_1 disambiguated => exact Or.inr disambiguated
    case h_2 => exact Or.inl rfl

namespace Sentence

variable {language : Language} {sentence result : Sentence}

theorem keepsAnalysis_tag (lexicon : Lexicon) (sentence : Sentence) :
    sentence.KeepsAnalysis (lexicon.tag sentence) := by
  rw [KeepsAnalysis, Lexicon.tag, List.forall₂_map_right_iff, List.forall₂_same]
  exact fun position _ => lexicon.keepsAnalysis_tagPosition position

theorem keepsAnalysis_of_apply {rule : DisambiguationRule}
    (applied : rule.apply language sentence = .ok result) : sentence.KeepsAnalysis result := by
  apply KeepsAnalysis.of_getElem? (DisambiguationRule.exists_of_apply applied).1
  intro place before standing
  obtain ⟨after, standingAfter, recorded⟩ :=
    DisambiguationRule.recordsChange_of_apply applied standing
  exact ⟨after, standingAfter, recorded.narrows.keepsAnalysis⟩

theorem keepsAnalysis_of_disambiguate {rules : List DisambiguationRule}
    (disambiguated : disambiguate rules language sentence = .ok result) :
    sentence.KeepsAnalysis result := by
  obtain ⟨stages, -, leads⟩ := exists_leads_of_disambiguate disambiguated
  apply KeepsAnalysis.of_getElem? leads.length_eq
  intro place before standing
  obtain ⟨after, standingAfter, narrows, -⟩ := leads.narrows standing
  exact ⟨after, standingAfter, narrows.keepsAnalysis⟩

theorem keepsAnalysis_analyzeSentence (checker : Checker) (sentence : Sentence) :
    sentence.KeepsAnalysis (checker.analyzeSentence sentence) := by
  obtain ⟨tagged, tags, analyzes⟩ := checker.exists_tagged_of_analyzeSentence sentence
  have kept : sentence.KeepsAnalysis tagged := by
    obtain rfl | ⟨lexicon, rfl⟩ := tags
    · exact .refl _
    · exact keepsAnalysis_tag lexicon sentence
  obtain analyzed_eq | disambiguated := analyzes
  · exact analyzed_eq ▸ kept
  · exact kept.trans (keepsAnalysis_of_disambiguate disambiguated)

end Sentence

end PhraseRules
