import PhraseRules.Proofs.Sentence.Analysed
import PhraseRules.Proofs.Sentence.Division

/-!
# Sentences that can be produced

A sentence is made of positions, of words or of a text, and it may then be tagged and disambiguated.
Its positions may be taken out again, changed and put into other sentences.  Faults are looked
for only where positions are put together, but no sentence has any:
`Sentence.produced_never_faulty`.
-/

namespace PhraseRules

/-! ## Making and producing -/

mutual

/-- The position is made by operations on positions, or changed by them after it was taken out of a
sentence. -/
inductive Position.IsMade : Position → Prop where
  | ofWord (text : String) (start : Nat) : Position.IsMade (.ofWord text start)
  | opening : Position.IsMade .opening
  | taken {sentence : Sentence} {position : Position} : Sentence.IsProduced sentence →
      position ∈ sentence.positions → Position.IsMade position
  | addReading {position : Position} (reading : Reading) : Position.IsMade position →
      Position.IsMade (position.addReading reading)
  | addChunk {position : Position} (chunk : String) : Position.IsMade position →
      Position.IsMade (position.addChunk chunk)
  | setChunks {position : Position} (chunks : List String) : Position.IsMade position →
      Position.IsMade { position with chunks }
  | setSpaceBefore {position : Position} (spaceBefore : Bool) : Position.IsMade position →
      Position.IsMade { position with spaceBefore }
  | setSentenceEnd {position : Position} (sentenceEnd : Bool) : Position.IsMade position →
      Position.IsMade { position with sentenceEnd }
  | setParagraphEnd {position : Position} (paragraphEnd : Bool) : Position.IsMade position →
      Position.IsMade { position with paragraphEnd }
  | immunize {position : Position} : Position.IsMade position →
      Position.IsMade position.immunize
  | note {position : Position} (line : String) : Position.IsMade position →
      Position.IsMade (position.note line)

/-- The sentence comes out of the analysis of positions, words or texts. -/
inductive Sentence.IsProduced : Sentence → Prop where
  | ofPositions {positions : List Position} {sentence : Sentence} :
      (∀ position ∈ positions, Position.IsMade position) →
        Sentence.ofPositions positions = .ok sentence → Sentence.IsProduced sentence
  | ofWords (words : List String) : Sentence.IsProduced (.ofWords words)
  | split {text : String} {sentences : List (Nat × Sentence)} {offset : Nat} {sentence : Sentence} :
      Sentence.split text = .ok sentences → (offset, sentence) ∈ sentences →
        Sentence.IsProduced sentence
  | tag {sentence : Sentence} (lexicon : Lexicon) : Sentence.IsProduced sentence →
      Sentence.IsProduced (lexicon.tag sentence)
  | apply {rule : DisambiguationRule} {language : Language} {sentence result : Sentence} :
      Sentence.IsProduced sentence → rule.apply language sentence = .ok result →
        Sentence.IsProduced result
  | disambiguate {rules : List DisambiguationRule} {language : Language}
      {sentence result : Sentence} : Sentence.IsProduced sentence →
        PhraseRules.disambiguate rules language sentence = .ok result →
          Sentence.IsProduced result

end

namespace Sentence

variable {sentence : Sentence}

/-! ## Sentences of words and texts -/

theorem of_mem_positionsOfWords {offset : Nat} {spaceBefore : Bool} {words : List String}
    {position : Position} (member : position ∈ positionsOfWords offset spaceBefore words) :
    offset ≤ position.start ∧ ∃ reading, position.readings = [reading] := by
  induction offset, spaceBefore, words using positionsOfWords.induct with
  | case1 => cases member
  | case2 offset spaceBefore word =>
      rw [positionsOfWords, List.mem_singleton] at member
      subst member
      exact ⟨Nat.le_refl offset, .unanalysed word, rfl⟩
  | case3 offset spaceBefore word later several induction =>
      rw [positionsOfWords] at member
      · cases member with
        | head => exact ⟨Nat.le_refl offset, .unanalysed word, rfl⟩
        | tail _ member =>
            obtain ⟨le_start, single⟩ := induction member
            exact ⟨by omega, single⟩
      · exact several

theorem pairwise_positionsOfWords (offset : Nat) (spaceBefore : Bool) (words : List String) :
    (positionsOfWords offset spaceBefore words).Pairwise fun former latter =>
      former.start ≤ latter.start := by
  induction offset, spaceBefore, words using positionsOfWords.induct with
  | case1 => exact .nil
  | case2 => exact List.pairwise_singleton _ _
  | case3 offset spaceBefore word later several induction =>
      rw [positionsOfWords]
      · refine .cons (fun position member => ?_) induction
        have le_start := (of_mem_positionsOfWords member).1
        show offset ≤ position.start
        omega
      · exact several

theorem isWellFormed_ofWords (words : List String) : (ofWords words).IsWellFormed := by
  apply IsWellFormed.of_isAnalysed
  · exact ⟨.opening, positionsOfWords 0 false words, rfl, rfl⟩
  · have behind := pairwise_positionsOfWords 0 false words
    exact .cons (fun position _ => Nat.zero_le position.start) behind
  · intro position standing
    cases standing with
    | head => exact .of_readings_eq rfl
    | tail _ member =>
        obtain ⟨-, reading, readings_eq⟩ := of_mem_positionsOfWords member
        exact .of_readings_eq readings_eq

theorem isWellFormed_of_split {text : String} {sentences : List (Nat × Sentence)} {offset : Nat}
    (divided : split text = .ok sentences) (member : (offset, sentence) ∈ sentences) :
    sentence.IsWellFormed := by
  cases divided.symm.trans (split_eq_ok text)
  obtain ⟨stretch, stretchMember, equal⟩ := List.mem_map.mp member
  cases equal
  refine ⟨isFaultless_sentence stretchMember, fun position standing => ?_⟩
  obtain ⟨reading, readings_eq⟩ := exists_readings_eq standing
  exact (Position.IsAnalysed.of_readings_eq readings_eq).distinct

end Sentence

/-! ## Produced sentences -/

mutual

theorem Position.IsMade.isAnalysed : ∀ {position : Position}, position.IsMade → position.IsAnalysed
  | _, .ofWord _ _ => .of_readings_eq rfl
  | _, .opening => .of_readings_eq rfl
  | _, .taken produced standing => produced.isWellFormed.isAnalysed standing
  | _, .addReading reading made => made.isAnalysed.addReading reading
  -- the other operations leave the readings as they are
  | _, .addChunk _ made | _, .setChunks _ made | _, .setSpaceBefore _ made
  | _, .setSentenceEnd _ made | _, .setParagraphEnd _ made | _, .immunize made | _, .note _ made =>
      ⟨made.isAnalysed.nonempty, made.isAnalysed.distinct⟩

theorem Sentence.IsProduced.isWellFormed :
    ∀ {sentence : Sentence}, sentence.IsProduced → sentence.IsWellFormed
  | _, .ofPositions made accepted => by
      obtain ⟨faultless, rfl⟩ := Sentence.ofPositions_eq_ok_iff.mp accepted
      exact ⟨faultless, fun position member => (made position member).isAnalysed.distinct⟩
  | _, .ofWords words => Sentence.isWellFormed_ofWords words
  | _, .split divided member => Sentence.isWellFormed_of_split divided member
  | _, .tag lexicon produced =>
      (Sentence.keepsAnalysis_tag lexicon _).isWellFormed produced.isWellFormed
  | _, .apply produced applied =>
      (Sentence.keepsAnalysis_of_apply applied).isWellFormed produced.isWellFormed
  | _, .disambiguate produced disambiguated =>
      (Sentence.keepsAnalysis_of_disambiguate disambiguated).isWellFormed produced.isWellFormed

end

namespace Sentence

/-- The sentences that a checker works on are produced. -/
theorem isProduced_of_mem_analyzeText {checker : Checker} {text : String}
    {placed : Nat × Sentence} (member : placed ∈ checker.analyzeText text) :
    placed.2.IsProduced := by
  rw [Checker.analyzeText, split_eq_ok] at member
  obtain ⟨⟨offset, sentence⟩, allowed, rfl⟩ := List.mem_map.mp member
  have cut : sentence.IsProduced := .split (split_eq_ok text) (List.mem_filter.mp allowed).1
  show (checker.analyzeSentence sentence).IsProduced
  obtain ⟨tagged, tags, analyzes⟩ := checker.exists_tagged_of_analyzeSentence sentence
  have taggedProduced : tagged.IsProduced := by
    obtain rfl | ⟨lexicon, rfl⟩ := tags
    · exact cut
    · exact .tag lexicon cut
  obtain analyzed_eq | disambiguated := analyzes
  · exact analyzed_eq ▸ taggedProduced
  · exact .disambiguate taggedProduced disambiguated

/--
Every sentence that can be produced begins with a position that opens it, its offsets never
decrease, and each of its positions has readings, each of them once.  So its positions would be
taken for a sentence again, and neither positions that were made nor a text are ever refused because
a position has no readings.  The sentences that a checker works on are among those produced.
-/
theorem produced_never_faulty :
    (∀ sentence, IsProduced sentence →
      sentence.IsWellFormed ∧ ofPositions sentence.positions = .ok sentence) ∧
    (∀ positions, (∀ position ∈ positions, Position.IsMade position) →
      ∀ index, ofPositions positions ≠ .error (.noReadings index)) ∧
    (∀ text index, split text ≠ .error (.noReadings index)) ∧
    ∀ (checker : Checker) text, ∀ placed ∈ checker.analyzeText text, IsProduced placed.2 := by
  refine ⟨fun sentence produced => ?_, fun positions made => ?_, fun text index => ?_,
    fun checker text placed member => isProduced_of_mem_analyzeText member⟩
  · have wellFormed := produced.isWellFormed
    exact ⟨wellFormed, ofPositions_eq_ok_iff.mpr ⟨wellFormed.toIsFaultless, rfl⟩⟩
  · apply ofPositions_ne_noReadings
    exact fun position member => (made position member).isAnalysed.nonempty
  · rw [split_eq_ok]
    exact fun impossible => by cases impossible

/-- A noun loses the reading of a verb and gets those of a lexicon. -/
theorem produced_never_faulty_of_noun :
    ∃ rule,
      DisambiguationRule.compile "NOUN" [.word "casa"] (.remove ⟨"V", true, true, .oneOf ["V"]⟩)
          none = .ok rule ∧
      let noun := ((Position.ofWord "casa" 0).addReading (.tagged "casa" "casa" "N")).addReading
        (.tagged "casa" "casar" "V")
      let result : Sentence :=
        ⟨[.opening, { noun with readings := [.tagged "casa" "casa" "N"] }.note "NOUN: remove V"]⟩
      ofPositions [.opening, noun] ≠ .error (.noReadings 1) ∧
        rule.apply (.plain "es" "Español") ⟨[.opening, noun]⟩ = .ok result ∧
          ((Lexicon.empty.insert "casa" "casa" "N").tag result).IsWellFormed := by
  refine ⟨_, rfl, ?_⟩
  intro noun result
  have made : ∀ position ∈ [Position.opening, noun], Position.IsMade position :=
    List.forall_mem_cons.mpr ⟨.opening, List.forall_mem_singleton.mpr
      (.addReading _ (.addReading _ (.ofWord "casa" 0)))⟩
  refine ⟨produced_never_faulty.2.1 _ made 1, ?_⟩
  refine (and_iff_left_of_imp fun applied => ?_).mpr ?_
  · have produced := IsProduced.apply (.ofPositions made rfl) applied
    exact (produced_never_faulty.1 _ (.tag _ produced)).1
  · simp only [DisambiguationRule.apply, Query.occurrences, Sentence.length, List.length_cons,
      List.length_nil, Nat.zero_add, Query.scan, Query.occurrenceAt?_eq_offers]
    decide +kernel

end Sentence

end PhraseRules
