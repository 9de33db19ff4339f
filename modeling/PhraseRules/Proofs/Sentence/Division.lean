import PhraseRules.Proofs.Sentence.Layout

/-!
# Sentences divide the tokens of a text

Splitting a text never fails: every stretch of tokens makes a sentence.  The words of the sentences,
put one behind the other, are the tokens of the text that are not blank, and each sentence keeps of
its tokens where they stand in the text and which of them white space precedes.
-/

namespace PhraseRules

open PhraseRules.Text

/-- The position is that of the token, in a sentence that begins at the offset. -/
structure Position.StandsFor (position : Position) (offset : Nat) (token : Token) : Prop where
  text_eq : position.text = token.text
  start_eq : offset + position.start = token.start

namespace Sentence

variable {text : String} {stretch : Stretch}

/-! ## Tokens that are not blank -/

theorem map_token_spacedFrom (spaceBefore : Bool) (tokens : List Token) :
    (spacedFrom spaceBefore tokens).map (·.token) = tokens.filter (!·.isBlank) := by
  induction tokens generalizing spaceBefore with
  | nil => rfl
  | cons token later induction =>
      cases blank : token.isBlank <;> simp [spacedFrom, blank, induction]

/-- A token has white space before it just if the token right before it is blank. -/
theorem exists_of_mem_spacedFrom {spaceBefore : Bool} {tokens : List Token} {spaced : SpacedToken}
    (member : spaced ∈ spacedFrom spaceBefore tokens) :
    ∃ before after, tokens = before ++ spaced.token :: after ∧ spaced.token.isBlank = false ∧
      spaced.spaceBefore = (before.getLast?.map Token.isBlank).getD spaceBefore := by
  induction tokens generalizing spaceBefore with
  | nil => cases member
  | cons token later induction =>
      -- what is known of the tokens behind this one holds with it in front
      have behind (member : spaced ∈ spacedFrom token.isBlank later) :
          ∃ before after, token :: later = before ++ spaced.token :: after ∧
            spaced.token.isBlank = false ∧
            spaced.spaceBefore = (before.getLast?.map Token.isBlank).getD spaceBefore := by
        obtain ⟨before, after, later_eq, solid, space_eq⟩ := induction member
        refine ⟨token :: before, after, congrArg (token :: ·) later_eq, solid, ?_⟩
        rw [space_eq, List.getLast?_cons, Option.getD_map]
        rfl
      rw [spacedFrom] at member
      split at member
      case isTrue blank =>
          rw [← blank] at member
          exact behind member
      case isFalse solid =>
          have solid : token.isBlank = false := Bool.eq_false_iff.mpr solid
          cases member with
          | head => exact ⟨[], later, rfl, solid, rfl⟩
          | tail _ member =>
              rw [← solid] at member
              exact behind member

theorem mem_spacedFrom_of_mem_stretchesOf (member : stretch ∈ stretchesOf text)
    {spaced : SpacedToken} (taken : spaced ∈ stretch.tokens) :
    spaced ∈ spacedFrom false (tokenize text) := by
  rw [← flatMap_stretchesOf]
  exact List.mem_flatMap.mpr ⟨stretch, member, taken⟩

/-! ## Sentences of stretches -/

theorem words_ne_nil (member : stretch ∈ stretchesOf text) : stretch.words ≠ [] := by
  obtain ⟨first, later, tokens_eq, -, -⟩ := exists_first_of_mem_stretchesOf member
  rw [Stretch.words, tokens_eq]
  exact List.cons_ne_nil _ _

/-- A sentence has at least one word. -/
theorem exists_positions_eq (member : stretch ∈ stretchesOf text) :
    ∃ word words, stretch.sentence.positions = .opening :: word :: words := by
  obtain ⟨first, later, words_eq⟩ := List.exists_cons_of_ne_nil (words_ne_nil member)
  have positions_eq : stretch.sentence.positions =
      .opening :: markEnd stretch.paragraphEnd (first :: later) := by
    rw [Stretch.sentence, words_eq, markEnd]
    exact List.cons_ne_nil first later
  cases later with
  | nil => exact ⟨_, _, positions_eq⟩
  | cons second later => exact ⟨_, _, positions_eq⟩

theorem exists_positionOfToken_of_mem_words {position : Position}
    (member : position ∈ stretch.words) :
    ∃ spaceBefore token, position = positionOfToken stretch.offset spaceBefore token := by
  rw [Stretch.words.eq_def] at member
  split at member
  case h_1 => cases member
  case h_2 first later _ =>
      cases member with
      | head => exact ⟨false, first.token, rfl⟩
      | tail _ member =>
          obtain ⟨spaced, -, rfl⟩ := List.mem_map.mp member
          exact ⟨spaced.spaceBefore, spaced.token, rfl⟩

/-- What is cut out of a text has a single reading. -/
theorem exists_readings_eq {position : Position}
    (standing : position ∈ stretch.sentence.positions) :
    ∃ reading, position.readings = [reading] := by
  have readings_eq : stretch.sentence.positions.map (·.readings) =
      (Position.opening :: stretch.words).map (·.readings) :=
    map_markEnd (fun _ _ _ => rfl) _ _
  have kept : position.readings ∈ (Position.opening :: stretch.words).map (·.readings) := by
    rw [← readings_eq]
    exact List.mem_map_of_mem standing
  obtain ⟨original, member, same⟩ := List.mem_map.mp kept
  rw [← same]
  cases member with
  | head => exact ⟨_, rfl⟩
  | tail _ member =>
      obtain ⟨spaceBefore, token, rfl⟩ := exists_positionOfToken_of_mem_words member
      exact ⟨.unanalysed token.text, rfl⟩

theorem isFaultless_sentence (member : stretch ∈ stretchesOf text) :
    IsFaultless stretch.sentence.positions where
  opens := by
    obtain ⟨word, words, positions_eq⟩ := exists_positions_eq member
    exact ⟨.opening, word :: words, positions_eq, rfl⟩
  ordered := by
    have apart := (laidOut_sentence member).pairwise
    rw [List.pairwise_map] at apart
    apply apart.imp
    intro former latter before
    rw [Position.stop_placed] at before
    have start_le : former.start ≤ former.stop := Nat.le_add_right _ _
    exact start_le.trans (Nat.le_of_add_le_add_left before)
  analysed := by
    intro position standing none
    obtain ⟨reading, readings_eq⟩ := exists_readings_eq standing
    rw [none] at readings_eq
    cases readings_eq

/-- A text can always be split, and its sentences are those of its stretches. -/
theorem split_eq_ok (text : String) :
    split text =
      .ok ((stretchesOf text).map fun stretch => (stretch.offset, stretch.sentence)) := by
  have succeeds : ∀ stretch ∈ stretchesOf text, ∃ placed : Nat × Sentence,
      (do return (stretch.offset, ← ofStretch stretch)) = Except.ok placed := by
    intro stretch member
    have made : ofStretch stretch = .ok stretch.sentence :=
      ofPositions_eq_ok_iff.mpr ⟨isFaultless_sentence member, rfl⟩
    exact ⟨(stretch.offset, stretch.sentence), by rw [made]; rfl⟩
  obtain ⟨sentences, divided⟩ := Outcome.exists_mapM_eq_ok succeeds
  have divided : split text = .ok sentences := divided
  rw [divided, split_eq_map divided]

/-! ## Words and tokens -/

theorem standsFor_of_placed_eq {position : Position} {offset : Nat} {spaced : SpacedToken}
    {spaceBefore : Bool}
    (placed_eq : position.placed offset = { spaced.placed with spaceBefore }) :
    position.StandsFor offset spaced.token ∧ position.spaceBefore = spaceBefore := by
  rw [Position.placed, SpacedToken.placed, PlacedWord.mk.injEq] at placed_eq
  obtain ⟨chars_eq, start_eq, spaceBefore_eq⟩ := placed_eq
  exact ⟨⟨String.toList_inj.mp chars_eq, start_eq⟩, spaceBefore_eq⟩

/-- Each word of a sentence stands for a token, and keeps the white space before it unless it is the
first. -/
theorem exists_token_of_word (member : stretch ∈ stretchesOf text) {index : Nat}
    {position : Position} (standing : (stretch.sentence.positions.drop 1)[index]? = some position) :
    ∃ spaced, stretch.tokens[index]? = some spaced ∧
      position.StandsFor stretch.offset spaced.token ∧
      position.spaceBefore = (decide (0 < index) && spaced.spaceBefore) := by
  obtain ⟨first, later, tokens_eq, -, words_eq⟩ := exists_first_of_mem_stretchesOf member
  have placed_eq := congrArg (fun words => (words.drop 1)[index]?) words_eq
  simp only [← List.map_drop, List.getElem?_map, standing, Option.map_some, List.drop_succ_cons,
    List.drop_zero] at placed_eq
  rw [tokens_eq]
  cases index with
  | zero => exact ⟨first, rfl, standsFor_of_placed_eq (Option.some.inj placed_eq)⟩
  | succ index =>
      rw [List.getElem?_cons_succ, List.getElem?_map] at placed_eq
      obtain ⟨spaced, spaced_eq, placed_eq⟩ := Option.map_eq_some_iff.mp placed_eq.symm
      exact ⟨spaced, spaced_eq, standsFor_of_placed_eq placed_eq.symm⟩

/-- The words of a sentence are the tokens that it is made of. -/
theorem map_words_eq (member : stretch ∈ stretchesOf text) :
    (stretch.sentence.positions.drop 1).map (fun position =>
        (position.text, stretch.offset + position.start)) =
      stretch.tokens.map fun spaced => (spaced.token.text, spaced.token.start) := by
  obtain ⟨first, later, tokens_eq, -, words_eq⟩ := exists_first_of_mem_stretchesOf member
  have view_eq := congrArg
    (fun words => (words.drop 1).map fun word => (String.ofList word.chars, word.start)) words_eq
  simpa [tokens_eq, Position.placed, SpacedToken.placed, ← List.map_drop, Function.comp_def]
    using view_eq

theorem offset_lt_offset (text : String) :
    (stretchesOf text).Pairwise fun former latter => former.offset < latter.offset := by
  apply (pairwise_sentences text).imp_of_mem
  intro former latter memberFormer _ before
  obtain ⟨first, later, tokens_eq, offset_eq, words_eq⟩ :=
    exists_first_of_mem_stretchesOf memberFormer
  have taken : first ∈ former.tokens := tokens_eq ▸ List.mem_cons_self
  obtain ⟨front, behind, tokenize_eq, -, -⟩ :=
    exists_of_mem_spacedFrom (mem_spacedFrom_of_mem_stretchesOf memberFormer taken)
  have nonempty : first.token.text.toList ≠ [] :=
    (tiles_tokensFrom 0 text.toList).text_ne_nil
      (show first.token ∈ tokenize text from tokenize_eq ▸ List.mem_append_cons_self)
  have stop_le : first.placed.stop ≤ latter.offset :=
    before { first.placed with spaceBefore := false } (words_eq ▸ by simp)
  calc former.offset = first.placed.start := offset_eq
    _ < first.placed.stop := Nat.lt_add_of_pos_right (List.length_pos_iff.mpr nonempty)
    _ ≤ latter.offset := stop_le

/-- The text spells each word where its sentence says that it stands. -/
theorem extract_eq_word (member : stretch ∈ stretchesOf text) {position : Position}
    (standing : position ∈ stretch.sentence.positions) :
    stretch.offset + position.stop ≤ text.length ∧
      text.toList.extract (stretch.offset + position.start) (stretch.offset + position.stop) =
        position.text.toList := by
  have placed : position.placed stretch.offset ∈
      stretch.sentence.positions.map (·.placed stretch.offset) :=
    List.mem_map_of_mem standing
  have stop_le := (laidOut_sentence member).stop_le placed
  have stands := (laidOut_sentence member).stands placed
  rw [Position.stop_placed] at stop_le stands
  rw [String.length_toList] at stop_le
  exact ⟨stop_le, stands⟩

/-- A word asks for space just if it is not the first and the token right before its own is blank.
-/
theorem exists_token_with_space (member : stretch ∈ stretchesOf text) {index : Nat}
    {position : Position} (standing : (stretch.sentence.positions.drop 1)[index]? = some position) :
    ∃ before token after, tokenize text = before ++ token :: after ∧ token.isBlank = false ∧
      position.StandsFor stretch.offset token ∧
      (position.spaceBefore = true ↔
        0 < index ∧ ∃ blank, before.getLast? = some blank ∧ blank.isBlank = true) := by
  obtain ⟨spaced, taken, standsFor, space_eq⟩ := exists_token_of_word member standing
  obtain ⟨before, after, tokens_eq, solid, spaceBefore_eq⟩ := exists_of_mem_spacedFrom
    (mem_spacedFrom_of_mem_stretchesOf member (List.mem_of_getElem? taken))
  refine ⟨before, spaced.token, after, tokens_eq, solid, standsFor, ?_⟩
  rw [space_eq, spaceBefore_eq, Bool.and_eq_true, decide_eq_true_iff]
  apply and_congr_right'
  cases before.getLast? with
  | none => simp
  | some blank => simp

/--
A text is split into sentences whose words, put one behind the other, are the tokens of the text
that are not blank, each at its place.  A sentence has at least one word behind its opening, and the
text spells each word where the sentence says that it stands.  A word keeps the white space before
its token unless it is the first of its sentence.  A sentence begins behind all words of those
before it.
-/
theorem split_divides_tokens (text : String) :
    ∃ sentences, split text = .ok sentences ∧
      (sentences.flatMap fun placed => (placed.2.positions.drop 1).map fun position =>
          (position.text, placed.1 + position.start)) =
        ((tokenize text).filter (!·.isBlank)).map (fun token => (token.text, token.start)) ∧
      (∀ placed ∈ sentences,
        (∃ word words, placed.2.positions = .opening :: word :: words) ∧
        (∀ position ∈ placed.2.positions.drop 1,
          placed.1 + position.stop ≤ text.length ∧
            text.toList.extract (placed.1 + position.start) (placed.1 + position.stop) =
              position.text.toList) ∧
        ∀ (index : Nat) position, (placed.2.positions.drop 1)[index]? = some position →
          ∃ before token after, tokenize text = before ++ token :: after ∧
            token.isBlank = false ∧ position.StandsFor placed.1 token ∧
            (position.spaceBefore = true ↔
              0 < index ∧ ∃ blank, before.getLast? = some blank ∧ blank.isBlank = true)) ∧
      sentences.Pairwise fun former latter =>
        former.1 < latter.1 ∧
          ∀ position ∈ former.2.positions, former.1 + position.stop ≤ latter.1 := by
  refine ⟨_, split_eq_ok text, ?_, ?_, ?_⟩
  · rw [List.flatMap_map, ← map_token_spacedFrom false, ← flatMap_stretchesOf, List.map_map,
      List.map_flatMap]
    apply List.flatMap_congr
    exact fun stretch member => map_words_eq member
  · intro placed listed
    obtain ⟨stretch, member, rfl⟩ := List.mem_map.mp listed
    refine ⟨exists_positions_eq member, ?_, ?_⟩
    · intro position word
      exact extract_eq_word member (List.mem_of_mem_drop word)
    · intro index position standing
      exact exists_token_with_space member standing
  · rw [List.pairwise_map]
    apply ((offset_lt_offset text).and (pairwise_sentences text)).imp
    rintro former latter ⟨lt, before⟩
    refine ⟨lt, fun position standing => ?_⟩
    rw [← Position.stop_placed]
    exact before _ (List.mem_map_of_mem standing)

/-- The words of two sentences, of which only the last one has a space before it. -/
theorem split_divides_tokens_of_two_sentences :
    ∃ first second, split "No. la  la" = .ok [(0, first), (4, second)] ∧
      (second.positions.drop 1).map (fun word => (word.text, word.start, word.spaceBefore)) =
        [("la", 0, false), ("la", 4, true)] ∧
      ∃ before token after, tokenize "No. la  la" = before ++ token :: after ∧
        token.text = "la" ∧ token.start = 8 ∧
          ∃ blank, before.getLast? = some blank ∧ blank.isBlank = true := by
  obtain ⟨sentences, divided, -, each, -⟩ := split_divides_tokens "No. la  la"
  have computed : split "No. la  la" =
      .ok [(0, ⟨[.opening, .ofWord "No" 0, { Position.ofWord "." 2 with sentenceEnd := true }]⟩),
        (4, ⟨[.opening, .ofWord "la" 0, { Position.ofWord "la" 4 with
          spaceBefore := true, sentenceEnd := true, paragraphEnd := true }]⟩)] := by
    decide +kernel
  refine ⟨_, _, computed, rfl, ?_⟩
  cases computed.symm.trans divided
  obtain ⟨-, -, spaces⟩ := each _ (List.mem_cons_of_mem _ List.mem_cons_self)
  obtain ⟨before, token, after, tokens_eq, -, standsFor, space_iff⟩ := spaces 1 _ rfl
  exact ⟨before, token, after, tokens_eq, standsFor.text_eq.symm, standsFor.start_eq.symm,
    (space_iff.mp rfl).2⟩

end Sentence

end PhraseRules
