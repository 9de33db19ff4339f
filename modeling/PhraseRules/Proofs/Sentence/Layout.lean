import PhraseRules.Proofs.Outcome
import PhraseRules.Proofs.Sentence.Faultless
import PhraseRules.Proofs.Text.Tokens
import PhraseRules.Sentence.Split

/-!
# Where words stand in a text

`LaidOut` relates words to the text that they were cut out of: every word is found where it starts,
and white space separates it from the one before just if it asks for space.  The tokens of a text
that are not blank are laid out, every sentence takes a run of them, and what a position keeps of
its token is enough to find it again.
-/

namespace PhraseRules

open PhraseRules.Text PhraseRules.Unicode

/-! ## Words in their places -/

/-- The characters of a word, the place in a text where they start, and whether the word asks for
space before it. -/
structure PlacedWord where
  chars : List Char
  start : Nat
  spaceBefore : Bool

/-- The place just behind the word. -/
def PlacedWord.stop (word : PlacedWord) : Nat :=
  word.start + word.chars.length

/-- The word at a position of a sentence that begins at an offset. -/
def Position.placed (offset : Nat) (position : Position) : PlacedWord :=
  ⟨position.text.toList, offset + position.start, position.spaceBefore⟩

theorem Position.stop_placed (offset : Nat) (position : Position) :
    (position.placed offset).stop = offset + position.stop := by
  rw [PlacedWord.stop, placed, stop, String.length_toList, Nat.add_assoc]

/-- The words stand in the text in order, with white space between `place` and the first and between
neighbours just where the latter asks for it. -/
inductive LaidOut (text : List Char) : Nat → List PlacedWord → Prop where
  | nil (place : Nat) : LaidOut text place []
  | cons {place : Nat} {word : PlacedWord} {later : List PlacedWord} (le_start : place ≤ word.start)
      (blank : ∀ c ∈ text.extract place word.start, isWhiteSpace c = true)
      (spaced : place < word.start ↔ word.spaceBefore = true)
      (stop_le : word.stop ≤ text.length)
      (stands : text.extract word.start word.stop = word.chars)
      (onward : LaidOut text word.stop later) :
      LaidOut text place (word :: later)

namespace LaidOut

variable {text : List Char} {place : Nat} {words later : List PlacedWord} {word : PlacedWord}

theorem le_start (laidOut : LaidOut text place words) (member : word ∈ words) :
    place ≤ word.start := by
  induction laidOut with
  | nil => cases member
  | cons le_start _ _ _ _ _ induction =>
      rcases List.mem_cons.mp member with rfl | member
      · exact le_start
      · exact le_start.trans ((Nat.le_add_right _ _).trans (induction member))

theorem stop_le (laidOut : LaidOut text place words) (member : word ∈ words) :
    word.stop ≤ text.length := by
  induction laidOut with
  | nil => cases member
  | cons _ _ _ stop_le _ _ induction =>
      rcases List.mem_cons.mp member with rfl | member
      · exact stop_le
      · exact induction member

theorem stands (laidOut : LaidOut text place words) (member : word ∈ words) :
    text.extract word.start word.stop = word.chars := by
  induction laidOut with
  | nil => cases member
  | cons _ _ _ _ stands _ induction =>
      cases member with
      | head => exact stands
      | tail _ member => exact induction member

/-- A word ends before those behind it start. -/
theorem pairwise (laidOut : LaidOut text place words) :
    words.Pairwise fun former latter => former.stop ≤ latter.start := by
  induction laidOut with
  | nil => exact .nil
  | cons _ _ _ _ _ onward induction => exact .cons (fun _ => onward.le_start) induction

theorem of_append_left (laidOut : LaidOut text place (words ++ later)) :
    LaidOut text place words := by
  induction words generalizing place with
  | nil => exact .nil place
  | cons word words induction =>
      cases laidOut with
      | cons le_start blank spaced stop_le stands onward =>
          exact .cons le_start blank spaced stop_le stands (induction onward)

theorem of_append_right (laidOut : LaidOut text place (words ++ later)) :
    ∃ place, LaidOut text place later := by
  induction words generalizing place with
  | nil => exact ⟨place, laidOut⟩
  | cons word words induction =>
      cases laidOut with
      | cons _ _ _ _ _ onward => exact induction onward

/-- The first word of a layout may just as well do without space. -/
theorem start_at_first (laidOut : LaidOut text place (word :: later)) :
    LaidOut text word.start ({ word with spaceBefore := false } :: later) := by
  cases laidOut with
  | cons _ _ _ stop_le stands onward =>
      exact .cons (Nat.le_refl _) (forall_mem_extract_self _)
        (iff_of_false (Nat.lt_irrefl _) Bool.false_ne_true) stop_le stands onward

/-- A word without characters may precede the others. -/
theorem cons_empty (laidOut : LaidOut text place words) (place_le : place ≤ text.length) :
    LaidOut text place (⟨[], place, false⟩ :: words) :=
  .cons (Nat.le_refl _) (forall_mem_extract_self _)
    (iff_of_false (Nat.lt_irrefl _) Bool.false_ne_true) place_le (extract_self place) laidOut

end LaidOut

/-! ## Runs of words -/

/-- The characters are the words of the positions in order, with white space between neighbours just
where the latter asks for it. -/
inductive Spells : List Position → List Char → Prop where
  | single (position : Position) : Spells [position] position.text.toList
  | cons {position next : Position} {later : List Position} {gap chars : List Char}
      (blank : ∀ c ∈ gap, isWhiteSpace c = true) (spaced : gap ≠ [] ↔ next.spaceBefore = true)
      (onward : Spells (next :: later) chars) :
      Spells (position :: next :: later) (position.text.toList ++ gap ++ chars)

namespace LaidOut

variable {text : List Char} {offset place : Nat} {positions : List Position}
  {head final : Position}

theorem start_le_stop_and_spells (laidOut : LaidOut text place (positions.map (·.placed offset)))
    (head_eq : positions.head? = some head) (final_eq : positions.getLast? = some final) :
    head.start ≤ final.stop ∧
      Spells positions (text.extract (offset + head.start) (offset + final.stop)) := by
  induction positions generalizing place head with
  | nil => cases head_eq
  | cons position later induction =>
      cases head_eq
      cases laidOut with
      | cons _ _ _ _ stands onward =>
          rw [Position.stop_placed] at stands onward
          change text.extract (offset + position.start) _ = position.text.toList at stands
          have le_stop : position.start ≤ position.stop := Nat.le_add_right _ _
          cases later with
          | nil =>
              obtain rfl : position = final := Option.some.inj final_eq
              rw [stands]
              exact ⟨le_stop, .single position⟩
          | cons next later =>
              rw [List.getLast?_cons_cons] at final_eq
              rcases induction onward rfl final_eq with ⟨next_le, spells⟩
              cases onward with
              | cons le_start blank spaced stop_le _ _ =>
                  change offset + position.stop ≤ offset + next.start at le_start
                  have start_le : position.start ≤ final.stop := by omega
                  refine ⟨start_le, ?_⟩
                  have chars_eq : text.extract (offset + position.start) (offset + final.stop) =
                      position.text.toList ++
                          text.extract (offset + position.stop) (offset + next.start) ++
                        text.extract (offset + next.start) (offset + final.stop) := by
                    rw [← stands, extract_append_extract (by omega) le_start,
                      extract_append_extract (by omega) (by omega)]
                  have inside := (Nat.le_add_right _ _).trans stop_le
                  rw [chars_eq]
                  exact .cons blank ((extract_ne_nil_iff inside).trans spaced) spells

/-- A run of words that are laid out is spelled by the text from its first word to its last. -/
theorem spells_extract (laidOut : LaidOut text place (positions.map (·.placed offset)))
    {first last : Nat} (forward : first < last) (head_eq : positions[first]? = some head)
    (final_eq : positions[last - 1]? = some final) :
    head.start ≤ final.stop ∧
      Spells (positions.extract first last)
        (text.extract (offset + head.start) (offset + final.stop)) := by
  have inside := (List.getElem?_eq_some_iff.mp final_eq).1
  have run_head : (positions.extract first last).head? = some head := by
    rw [List.extract, List.head?_take, if_neg (by omega), List.head?_drop, head_eq]
  have run_final : (positions.extract first last).getLast? = some final := by
    rw [List.getLast?_eq_getElem?, List.extract, List.length_take, List.length_drop,
      List.getElem?_take_of_lt (by omega), List.getElem?_drop, ← final_eq]
    congr 1
    omega
  rw [← List.take_append_drop first positions,
    ← List.take_append_drop (last - first) (positions.drop first), List.map_append,
    List.map_append] at laidOut
  rcases laidOut.of_append_right with ⟨place, laidOut⟩
  exact laidOut.of_append_left.start_le_stop_and_spells run_head run_final

end LaidOut

/-! ## Tokens -/

namespace Sentence

/-- The token in its place. -/
def SpacedToken.placed (spaced : SpacedToken) : PlacedWord :=
  ⟨spaced.token.text.toList, spaced.token.start, spaced.spaceBefore⟩

/-- The tokens that are not blank; `spaceBefore` tells whether a blank one came just before. -/
def spacedFrom (spaceBefore : Bool) : List Token → List SpacedToken
  | [] => []
  | token :: later =>
      if token.isBlank then spacedFrom true later
      else ⟨token, spaceBefore⟩ :: spacedFrom false later

/-- What of a text is not blank is laid out.  The induction carries along the white space that was
passed over since the last word. -/
theorem laidOut_spacedFrom {text before chars : List Char} {start place : Nat}
    {spaceBefore : Bool} {tokens : List Token} (tiles : Tiles start chars tokens)
    (text_eq : text = before ++ chars) (start_eq : before.length = start)
    (allBlank : ∀ token ∈ tokens, token.isBlank = true →
      ∀ c ∈ token.text.toList, isWhiteSpace c = true)
    (le_start : place ≤ start) (blank : ∀ c ∈ text.extract place start, isWhiteSpace c = true)
    (spaced : place < start ↔ spaceBefore = true) :
    LaidOut text place ((spacedFrom spaceBefore tokens).map (·.placed)) := by
  induction tiles generalizing before place spaceBefore with
  | nil => exact .nil place
  | @cons token rest later nonempty stop_eq onward induction =>
      have beforeLater : (before ++ token.text.toList).length = token.stop := by
        rw [List.length_append, start_eq, stop_eq]
      have stands : text.extract token.start token.stop = token.text.toList := by
        rw [stop_eq, ← start_eq]
        exact extract_of_eq_append text_eq
      have textLater : text = before ++ token.text.toList ++ rest := by
        rw [text_eq, List.append_assoc]
      have blankLater := fun other member => allBlank other (List.mem_cons_of_mem token member)
      have lt_stop : token.start < token.stop := by
        rw [stop_eq]
        exact Nat.lt_add_of_pos_right (List.length_pos_iff.mpr nonempty)
      rw [spacedFrom]
      split
      case isTrue isBlank =>
          refine induction textLater beforeLater blankLater (le_start.trans lt_stop.le) ?_ ?_
          · rw [← extract_append_extract le_start lt_stop.le, stands]
            exact List.forall_mem_append.mpr ⟨blank, allBlank token List.mem_cons_self isBlank⟩
          · exact iff_of_true (Nat.lt_of_le_of_lt le_start lt_stop) rfl
      case isFalse =>
          have placed_stop : (SpacedToken.placed ⟨token, spaceBefore⟩).stop = token.stop :=
            stop_eq.symm
          refine .cons le_start blank spaced ?_ ?_ ?_
          · rw [placed_stop, ← beforeLater, textLater]
            exact (List.prefix_append _ _).length_le
          · rw [placed_stop]
            exact stands
          · rw [placed_stop]
            exact induction textLater beforeLater blankLater (Nat.le_refl _)
              (forall_mem_extract_self _) (iff_of_false (Nat.lt_irrefl _) Bool.false_ne_true)

theorem laidOut_tokenize (text : String) :
    LaidOut text.toList 0 ((spacedFrom false (tokenize text)).map (·.placed)) := by
  have text_eq : text.toList = [] ++ text.toList := rfl
  exact laidOut_spacedFrom (tiles_tokensFrom 0 _) text_eq rfl
    (fun _ => isWhiteSpace_of_mem_tokensFrom) (Nat.le_refl _) (forall_mem_extract_self _)
    (iff_of_false (Nat.lt_irrefl _) Bool.false_ne_true)

/-! ## Stretches -/

/-- The stretches divide the tokens that are not blank. -/
theorem flatMap_stretchesFrom (pending : List SpacedToken) (spaceBefore : Bool)
    (tokens : List Token) :
    (stretchesFrom pending spaceBefore tokens).flatMap (·.tokens) =
      pending ++ spacedFrom spaceBefore tokens := by
  induction tokens generalizing pending spaceBefore with
  | nil =>
      rw [stretchesFrom, spacedFrom]
      split
      case isTrue empty => rw [List.isEmpty_iff.mp empty, List.flatMap_nil, List.append_nil]
      case isFalse => rw [List.flatMap_singleton, List.append_nil]
  | cons token later induction =>
      rw [stretchesFrom, spacedFrom]
      split
      case isTrue =>
          split
          case isTrue => rw [List.flatMap_cons, induction, List.nil_append]
          case isFalse => exact induction _ _
      case isFalse =>
          dsimp only
          split
          case isTrue =>
              rw [List.flatMap_cons, induction, List.nil_append, List.append_assoc,
                List.singleton_append]
          case isFalse => rw [induction, List.append_assoc, List.singleton_append]

theorem tokens_ne_nil_of_mem_stretchesFrom {pending : List SpacedToken} {spaceBefore : Bool}
    {tokens : List Token} {stretch : Stretch}
    (member : stretch ∈ stretchesFrom pending spaceBefore tokens) : stretch.tokens ≠ [] := by
  induction tokens generalizing pending spaceBefore with
  | nil =>
      rw [stretchesFrom] at member
      split at member
      case isTrue => cases member
      case isFalse some =>
          cases List.mem_singleton.mp member
          exact fun none => some (List.isEmpty_iff.mpr none)
  | cons token later induction =>
      rw [stretchesFrom] at member
      split at member
      case isTrue =>
          split at member
          case isTrue breaks =>
              rcases List.mem_cons.mp member with rfl | member
              · rintro rfl
                simp at breaks
              · exact induction member
          case isFalse => exact induction member
      case isFalse =>
          dsimp only at member
          split at member
          case isTrue =>
              rcases List.mem_cons.mp member with rfl | member
              · exact List.append_ne_nil_of_right_ne_nil _ (List.cons_ne_nil _ _)
              · exact induction member
          case isFalse => exact induction member

/-- The stretches of a text. -/
def stretchesOf (text : String) : List Stretch :=
  stretchesFrom [] false (tokenize text)

theorem flatMap_stretchesOf (text : String) :
    (stretchesOf text).flatMap (·.tokens) = spacedFrom false (tokenize text) :=
  flatMap_stretchesFrom [] false _

theorem exists_laidOut_of_mem_stretchesOf {text : String} {stretch : Stretch}
    (member : stretch ∈ stretchesOf text) :
    ∃ place, LaidOut text.toList place (stretch.tokens.map (·.placed)) := by
  have laidOut := laidOut_tokenize text
  rcases List.append_of_mem member with ⟨before, after, stretches_eq⟩
  rw [← flatMap_stretchesOf, stretches_eq, List.flatMap_append, List.flatMap_cons,
    List.map_append, List.map_append] at laidOut
  rcases laidOut.of_append_right with ⟨place, laidOut⟩
  exact ⟨place, laidOut.of_append_left⟩

theorem pairwise_stretchesOf (text : String) :
    (stretchesOf text).Pairwise fun former latter =>
      ∀ spaced ∈ former.tokens, ∀ other ∈ latter.tokens,
        spaced.placed.stop ≤ other.placed.start := by
  have pairwise := (laidOut_tokenize text).pairwise
  rw [← flatMap_stretchesOf, List.pairwise_map, List.pairwise_flatMap] at pairwise
  exact pairwise.2

/-! ## Sentences -/

/-- The sentence that is made of a stretch. -/
def Stretch.sentence (stretch : Stretch) : Sentence :=
  ⟨markEnd stretch.paragraphEnd (Position.opening :: stretch.words)⟩

theorem sentence_eq_of_ofStretch {stretch : Stretch} {sentence : Sentence}
    (made : ofStretch stretch = .ok sentence) : sentence = stretch.sentence :=
  (ofPositions_eq_ok_iff.mp made).2

theorem split_eq_map {text : String} {sentences : List (Nat × Sentence)}
    (divided : split text = .ok sentences) :
    sentences = (stretchesOf text).map fun stretch => (stretch.offset, stretch.sentence) := by
  have made := Outcome.mapM_eq_ok_iff.mp divided
  refine (List.forall₂_eq_eq_eq ▸ List.forall₂_map_left_iff.mpr (made.imp ?_)).symm
  intro stretch placed stepped
  rcases Outcome.bind_eq_ok_iff.mp stepped with ⟨sentence, made, equal⟩
  rw [← sentence_eq_of_ofStretch made]
  exact Except.ok.inj equal

/-- Marking the end of a sentence changes nothing but what positions say about ends. -/
theorem map_markEnd {α : Type} {view : Position → α}
    (keeps : ∀ position sentenceEnd paragraphEnd,
      view { position with sentenceEnd, paragraphEnd } = view position)
    (paragraphEnd : Bool) (positions : List Position) :
    (markEnd paragraphEnd positions).map view = positions.map view := by
  induction positions using markEnd.induct with
  | case1 => rfl
  | case2 last => exact congrArg (fun first => [first]) (keeps last true paragraphEnd)
  | case3 position later several induction =>
      rw [markEnd, List.map_cons, List.map_cons, induction]
      exact several

theorem map_placed_markEnd (offset : Nat) (paragraphEnd : Bool) (positions : List Position) :
    (markEnd paragraphEnd positions).map (·.placed offset) =
      positions.map (·.placed offset) :=
  map_markEnd (fun _ _ _ => rfl) paragraphEnd positions

/-- A sentence begins with the empty word, and its first token needs no space. -/
theorem exists_first_of_mem_stretchesOf {text : String} {stretch : Stretch}
    (member : stretch ∈ stretchesOf text) :
    ∃ first later, stretch.tokens = first :: later ∧ stretch.offset = first.token.start ∧
      stretch.sentence.positions.map (·.placed stretch.offset) =
        ⟨[], stretch.offset, false⟩ :: { first.placed with spaceBefore := false } ::
          later.map (·.placed) := by
  rcases exists_laidOut_of_mem_stretchesOf member with ⟨place, laidOut⟩
  rcases List.exists_cons_of_ne_nil (tokens_ne_nil_of_mem_stretchesFrom member) with
    ⟨first, later, tokens_eq⟩
  have offset_eq : stretch.offset = first.token.start := by
    rw [Stretch.offset, tokens_eq]
    rfl
  refine ⟨first, later, tokens_eq, offset_eq, ?_⟩
  rw [tokens_eq, List.map_cons] at laidOut
  have le_start (spaced : SpacedToken) (behind : spaced ∈ later) :
      first.token.start ≤ spaced.token.start :=
    (Nat.le_add_right _ _).trans
      ((List.pairwise_cons.mp laidOut.pairwise).1 _ (List.mem_map_of_mem behind))
  rw [Stretch.sentence, map_placed_markEnd, Stretch.words, tokens_eq, offset_eq, List.map_cons,
    List.map_cons, List.map_map]
  congr 2
  · rw [Position.placed, SpacedToken.placed, positionOfToken]
    simp [Position.ofWord]
  · refine List.map_congr_left fun spaced behind => ?_
    rw [Function.comp_apply, Position.placed, SpacedToken.placed, positionOfToken]
    simp [Position.ofWord, le_start spaced behind]

/-- A sentence is laid out in the text that it is cut out of. -/
theorem laidOut_sentence {text : String} {stretch : Stretch} (member : stretch ∈ stretchesOf text) :
    LaidOut text.toList stretch.offset
      (stretch.sentence.positions.map (·.placed stretch.offset)) := by
  rcases exists_laidOut_of_mem_stretchesOf member with ⟨place, laidOut⟩
  rcases exists_first_of_mem_stretchesOf member with ⟨first, later, tokens_eq, offset_eq, words_eq⟩
  rw [tokens_eq, List.map_cons] at laidOut
  rw [words_eq, offset_eq]
  exact laidOut.start_at_first.cons_empty
    ((Nat.le_add_right _ _).trans (laidOut.stop_le List.mem_cons_self))

/-- A sentence ends before those behind it begin. -/
theorem pairwise_sentences (text : String) :
    (stretchesOf text).Pairwise fun former latter =>
      ∀ word ∈ former.sentence.positions.map (·.placed former.offset),
        word.stop ≤ latter.offset := by
  refine (pairwise_stretchesOf text).imp_of_mem fun {former latter} memberFormer memberLatter before
    word placed => ?_
  rcases exists_first_of_mem_stretchesOf memberFormer with
    ⟨first, later, tokens_eq, offset_eq, words_eq⟩
  rcases exists_first_of_mem_stretchesOf memberLatter with
    ⟨other, others, otherTokens_eq, otherOffset_eq, -⟩
  have ends_before (spaced : SpacedToken) (member : spaced ∈ first :: later) :
      spaced.placed.stop ≤ latter.offset := by
    rw [otherOffset_eq]
    exact before spaced (tokens_eq ▸ member) other (otherTokens_eq ▸ List.mem_cons_self)
  have first_ends := ends_before first List.mem_cons_self
  rw [words_eq] at placed
  rcases List.mem_cons.mp placed with rfl | placed
  · rw [offset_eq]
    exact (Nat.le_add_right _ _).trans first_ends
  · rcases List.mem_cons.mp placed with rfl | placed
    · exact first_ends
    · rcases List.mem_map.mp placed with ⟨spaced, member, rfl⟩
      exact ends_before spaced (List.mem_cons_of_mem _ member)

end Sentence

end PhraseRules
