import PhraseRules.Proofs.Sentence.Ends

/-!
# Sentences by themselves

The words of a sentence do not depend on the text around it: what the text has from the first of
them to the last is split into this sentence alone, `split_excerpt`.  Only that a paragraph ends
behind it is then certain.
-/

namespace PhraseRules

open PhraseRules.Text

namespace Sentence

variable {text : String} {stretch : Stretch} {stretches : List Stretch} {token first : Token}
  {tokens behind run rest later gap : List Token} {spaceBefore : Bool} {offset : Nat}

/-! ## Sentences without what follows -/

/-- A sentence that ends with a number ends there because of white space. -/
theorem isBlank_of_endsSentence_number (number : token.kind = .number)
    (ends : endsSentence token behind = true) :
    ∀ next ∈ behind.head?, next.isBlank = true := by
  intro next head_eq
  have unmarked : token.isSentenceFinal = false := by
    rw [Token.isSentenceFinal, number]
    rfl
  rw [endsSentence, unmarked, Bool.false_and, Bool.false_or, endsParagraph, Bool.or_eq_true] at ends
  rcases ends with breaks | blank
  · rw [Option.mem_def.mp head_eq] at breaks
    exact isBlank_of_isParagraphBreak breaks
  · exact List.all_eq_true.mp blank next (List.mem_of_head? head_eq)

theorem Takes.exists_solid (takes : Takes run rest) : ∃ token ∈ run, token.isBlank = false := by
  obtain ⟨inner, last, rfl, solid, -⟩ := takes.exists_last
  exact ⟨last, List.mem_append_right _ List.mem_cons_self, solid⟩

theorem endsParagraph_append (takes : Takes run rest) (behind : List Token) :
    endsParagraph (run ++ behind) = run.head?.any Token.isParagraphBreak := by
  obtain ⟨token, member, solid⟩ := takes.exists_solid
  have someSolid : (run ++ behind).all Token.isBlank = false :=
    List.all_eq_false.mpr ⟨token, List.mem_append_left _ member, Bool.eq_false_iff.mp solid⟩
  rw [endsParagraph, someSolid, Bool.or_false, List.head?_append_of_ne_nil _ takes.ne_nil]

/-- What a sentence takes it also takes of itself. -/
theorem Takes.alone (takes : Takes run rest) : Takes run [] := by
  induction takes with
  | @last token rest solid _ => exact .last solid (Bool.or_true _)
  | @word token run rest solid goesOn onward induction =>
      refine .word solid ?_ induction
      rw [endsSentence, endsParagraph_append onward, List.head?_append_of_ne_nil _ onward.ne_nil]
        at goesOn ⊢
      exact goesOn
  | blank blank next _ induction => exact .blank blank next induction

/-- What a sentence takes begins with a word, but for one blank token. -/
theorem Takes.exists_words (takes : Takes run rest) :
    ∃ gap first later, run = gap ++ first :: later ∧ (∀ token ∈ gap, token.isBlank = true) ∧
      first.isBlank = false ∧ Takes (first :: later) rest := by
  cases takes with
  | @last token rest solid ends =>
      exact ⟨[], token, [], rfl, List.forall_mem_nil _, solid, .last solid ends⟩
  | @word token run rest solid goesOn onward =>
      exact ⟨[], token, run, rfl, List.forall_mem_nil _, solid, .word solid goesOn onward⟩
  | @blank token run rest blank next onward =>
      obtain ⟨first, later, rfl⟩ := List.exists_cons_of_ne_nil onward.ne_nil
      exact ⟨[token], first, later, rfl, List.forall_mem_singleton.mpr blank, next first rfl,
        onward⟩

/-! ## Sentences without what precedes -/

theorem endsSentence_relativeTo (offset : Nat) (token : Token) (behind : List Token) :
    endsSentence (token.relativeTo offset) (behind.map (·.relativeTo offset)) =
      endsSentence token behind := by
  rw [endsSentence, endsParagraph, List.head?_map, Option.any_map, Option.any_map, List.all_map]
  rfl

theorem Takes.map_relativeTo (takes : Takes run rest) (offset : Nat) :
    Takes (run.map (·.relativeTo offset)) (rest.map (·.relativeTo offset)) := by
  induction takes with
  | last solid ends => exact .last solid ((endsSentence_relativeTo _ _ _).trans ends)
  | word solid goesOn _ induction =>
      refine .word solid ?_ induction
      rw [← List.map_append]
      exact (endsSentence_relativeTo _ _ _).trans goesOn
  | blank blank next _ induction =>
      refine .blank blank (fun first head_eq => ?_) induction
      rw [List.head?_map] at head_eq
      obtain ⟨token, token_eq, rfl⟩ := Option.map_eq_some_iff.mp head_eq
      exact next token token_eq

theorem spacedFrom_append_of_forall_isBlank (blank : ∀ token ∈ gap, token.isBlank = true)
    (spaceBefore : Bool) (tokens : List Token) :
    ∃ spaceAfter, spacedFrom spaceBefore (gap ++ tokens) = spacedFrom spaceAfter tokens := by
  induction gap generalizing spaceBefore with
  | nil => exact ⟨spaceBefore, rfl⟩
  | cons token gap induction =>
      obtain ⟨first, behind⟩ := List.forall_mem_cons.mp blank
      rw [List.cons_append, spacedFrom, if_pos first]
      exact induction behind true

theorem spacedFrom_map_relativeTo (offset : Nat) (spaceBefore : Bool) (tokens : List Token) :
    spacedFrom spaceBefore (tokens.map (·.relativeTo offset)) =
      (spacedFrom spaceBefore tokens).map fun spaced =>
        ⟨spaced.token.relativeTo offset, spaced.spaceBefore⟩ := by
  induction tokens generalizing spaceBefore with
  | nil => rfl
  | cons token later induction =>
      have same : (token.relativeTo offset).isBlank = token.isBlank := rfl
      rw [List.map_cons, spacedFrom, spacedFrom, same]
      split
      · exact induction true
      · rw [induction, List.map_cons]

/-- The words of a sentence are counted from its first token, and what precedes that is ignored. -/
theorem words_relativeTo (solid : first.isBlank = false) (ends endsAlone : Bool) :
    Stretch.words ⟨spacedFrom false ((first :: later).map (·.relativeTo first.start)), endsAlone⟩ =
      Stretch.words ⟨spacedFrom spaceBefore (first :: later), ends⟩ := by
  rw [spacedFrom_map_relativeTo, spacedFrom, spacedFrom, if_neg (Bool.eq_false_iff.mp solid),
    if_neg (Bool.eq_false_iff.mp solid)]
  have begins : (first.relativeTo first.start).start = 0 := Nat.sub_self first.start
  simp only [Stretch.words, Stretch.offset, List.map_cons, List.map_map, List.head?_cons,
    Option.map_some, Option.getD_some, begins]
  rfl

/-! ## Seams -/

/-- What a stretch takes, and what ends before that. -/
theorem Divides.exists_takes (divides : Divides tokens stretches) (member : stretch ∈ stretches) :
    ∃ front run rest, tokens = front ++ (run ++ rest) ∧ Takes run rest ∧
      stretch.tokens = spacedFrom false run ∧
      ∀ last ∈ front.getLast?, endsSentence last (run ++ rest) = true := by
  induction divides with
  | blank => cases member
  | @cons taken rest stretches takes onward induction =>
      rcases List.mem_cons.mp member with rfl | member
      · exact ⟨[], taken, rest, rfl, takes, rfl, fun _ none => by cases none⟩
      · obtain ⟨front, run, behind, rfl, takesBehind, taken_eq, ends⟩ := induction member
        refine ⟨taken ++ front, run, behind, (List.append_assoc _ _ _).symm, takesBehind,
          taken_eq, fun last last_eq => ?_⟩
        obtain ⟨inner, final, rfl, -, finalEnds, -⟩ := takes.exists_last
        cases front with
        | nil =>
            rw [List.append_nil, List.getLast?_concat] at last_eq
            cases last_eq
            exact finalEnds
        | cons former front =>
            rw [List.getLast?_append_of_ne_nil _ (List.cons_ne_nil former front)] at last_eq
            exact ends last last_eq

/-- The words of a stretch, and before them white space or the end of another sentence, so no
number. -/
theorem Divides.exists_words (divides : Divides tokens stretches) (member : stretch ∈ stretches) :
    ∃ front first later rest spaceBefore, tokens = front ++ ((first :: later) ++ rest) ∧
      first.isBlank = false ∧ Takes (first :: later) rest ∧
      stretch.tokens = spacedFrom spaceBefore (first :: later) ∧
      ∀ last ∈ front.getLast?, last.kind ≠ .number := by
  obtain ⟨front, run, rest, rfl, takes, taken_eq, ends⟩ := divides.exists_takes member
  obtain ⟨gap, first, later, rfl, blank, solid, takes⟩ := takes.exists_words
  obtain ⟨spaceBefore, spaced_eq⟩ :=
    spacedFrom_append_of_forall_isBlank blank false (first :: later)
  refine ⟨front ++ gap, first, later, rest, spaceBefore, ?_, solid, takes,
    taken_eq.trans spaced_eq, fun last last_eq number => ?_⟩
  · rw [List.append_assoc, List.append_assoc]
  · cases gap with
    | nil =>
        rw [List.append_nil] at last_eq
        have firstBlank := isBlank_of_endsSentence_number number (ends last last_eq) first rfl
        rw [solid] at firstBlank
        cases firstBlank
    | cons _ _ =>
        rw [List.getLast?_append_of_ne_nil _ (List.cons_ne_nil _ _)] at last_eq
        have lastBlank := blank last (List.mem_of_getLast? last_eq)
        rw [Token.isBlank, number] at lastBlank
        cases lastBlank

/-- Behind a number with which a sentence ends there is white space or nothing. -/
theorem Takes.isBlank_behind_number (takes : Takes run rest) {last : Token}
    (last_eq : run.getLast? = some last) (number : last.kind = .number) :
    ∀ next ∈ rest.head?, next.isBlank = true := by
  obtain ⟨inner, final, rfl, -, ends, -⟩ := takes.exists_last
  rw [List.getLast?_concat] at last_eq
  cases last_eq
  exact isBlank_of_endsSentence_number number ends

/-! ## Excerpts -/

/-- The characters hold just the tokens that a sentence takes, counted from `offset` on, and these
make up the stretch. -/
inductive IsExcerpt (stretch : Stretch) (offset : Nat) (excerpt : List Char) : Prop where
  | intro {first : Token} {later : List Token} {spaceBefore : Bool}
      (tokens_eq : tokensFrom offset excerpt = first :: later) (solid : first.isBlank = false)
      (takes : Takes (first :: later) [])
      (taken_eq : stretch.tokens = spacedFrom spaceBefore (first :: later))

/-- A sentence has an excerpt in its text. -/
theorem exists_isExcerpt_of_mem_stretchesOf (member : stretch ∈ stretchesOf text) :
    ∃ before excerpt behind, text.toList = before ++ (excerpt ++ behind) ∧
      IsExcerpt stretch before.length excerpt := by
  obtain ⟨front, first, later, rest, spaceBefore, tokens_eq, solid, takes, taken_eq, seam⟩ :=
    (divides_stretchesOf text).exists_words member
  obtain ⟨before, onward, text_eq, -, onward_eq⟩ := exists_cut tokens_eq
    fun last last_eq number => (seam last last_eq number).elim
  rw [Nat.zero_add] at onward_eq
  obtain ⟨excerpt, behind, rfl, excerpt_eq, -⟩ := exists_cut onward_eq
    fun _ last_eq => takes.isBlank_behind_number last_eq
  exact ⟨before, excerpt, behind, text_eq, .intro excerpt_eq solid takes.alone taken_eq⟩

/-- The last position of a sentence stands for its last token. -/
theorem standsFor_last (member : stretch ∈ stretchesOf text) {inner : List Token}
    {front : List Position} {last : Position}
    (tokens_eq : stretch.tokens.map (·.token) = inner ++ [token])
    (positions_eq : stretch.sentence.positions = .opening :: (front ++ [last])) :
    last.StandsFor stretch.offset token := by
  have marks_eq := map_markAt_sentence member tokens_eq
  rw [positions_eq, List.drop_one, List.tail_cons, List.map_append] at marks_eq
  have mark_eq := List.singleton_inj.mp (List.append_inj' marks_eq rfl).2
  rw [markAt, Mark.mk.injEq] at mark_eq
  exact ⟨mark_eq.1, mark_eq.2.1⟩

namespace IsExcerpt

variable {excerpt : List Char} {front : List Position} {last : Position}

theorem offset_eq (isExcerpt : IsExcerpt stretch offset excerpt) : stretch.offset = offset := by
  obtain @⟨first, later, spaceBefore, tokens_eq, solid, -, taken_eq⟩ := isExcerpt
  have tiles : Tiles offset excerpt (first :: later) := tokens_eq ▸ tiles_tokensFrom _ _
  rw [Stretch.offset, taken_eq, spacedFrom, if_neg (Bool.eq_false_iff.mp solid)]
  exact tiles.start_eq_of_head? rfl

/-- The last position of a sentence ends where its excerpt does. -/
theorem stop_eq (isExcerpt : IsExcerpt stretch offset excerpt) (member : stretch ∈ stretchesOf text)
    (positions_eq : stretch.sentence.positions = .opening :: (front ++ [last])) :
    stretch.offset + last.stop = offset + excerpt.length := by
  obtain @⟨first, later, spaceBefore, tokens_eq, solid, takes, taken_eq⟩ := isExcerpt
  have tiles : Tiles offset excerpt (first :: later) := tokens_eq ▸ tiles_tokensFrom _ _
  obtain ⟨inner, final, words_eq, finalSolid, -⟩ := takes.exists_last
  have final_eq : (first :: later).getLast? = some final := by
    rw [words_eq, List.getLast?_concat]
  have solids_eq : stretch.tokens.map (·.token) = inner.filter (!·.isBlank) ++ [final] := by
    rw [taken_eq, map_token_spacedFrom, words_eq, List.filter_append,
      List.filter_cons_of_pos (by simp [finalSolid])]
    rfl
  have stands := standsFor_last member solids_eq positions_eq
  calc stretch.offset + last.stop
      = stretch.offset + last.start + last.text.length := (Nat.add_assoc _ _ _).symm
    _ = final.start + final.text.toList.length := by
        rw [stands.start_eq, stands.text_eq, String.length_toList]
    _ = final.stop := (tiles.stop_eq (List.mem_of_getLast? final_eq)).symm
    _ = offset + excerpt.length := tiles.stop_eq_of_getLast? final_eq

/-- An excerpt is split into a single sentence with the words of the stretch. -/
theorem split_eq (isExcerpt : IsExcerpt stretch offset excerpt) :
    split (String.ofList excerpt) =
      .ok [(0, ⟨markEnd true (Position.opening :: stretch.words)⟩)] := by
  obtain @⟨first, later, spaceBefore, tokens_eq, solid, takes, taken_eq⟩ := isExcerpt
  have tiles : Tiles offset excerpt (first :: later) := tokens_eq ▸ tiles_tokensFrom _ _
  obtain rfl : first.start = offset := tiles.start_eq_of_head? rfl
  have tokenize_eq : tokenize (String.ofList excerpt) =
      (first :: later).map (·.relativeTo first.start) := by
    rw [tokenize, String.toList_ofList, ← map_relativeTo_tokensFrom first.start 0, Nat.add_zero,
      tokens_eq]
  have takesAlone := takes.map_relativeTo first.start
  rw [← tokenize_eq] at takesAlone
  have stretches_eq : stretchesOf (String.ofList excerpt) =
      [⟨spacedFrom false (tokenize (String.ofList excerpt)), true⟩] := by
    have taken := takesAlone.stretchesFrom_eq false (.inl rfl)
    rwa [List.map_nil, List.append_nil] at taken
  have offset_eq :
      Stretch.offset ⟨spacedFrom false (tokenize (String.ofList excerpt)), true⟩ = 0 := by
    have solid : (first.relativeTo first.start).isBlank = false := solid
    rw [Stretch.offset, tokenize_eq, List.map_cons, spacedFrom,
      if_neg (Bool.eq_false_iff.mp solid)]
    exact Nat.sub_self first.start
  rw [split_eq_ok, stretches_eq, List.map_singleton, offset_eq, Stretch.sentence, tokenize_eq,
    words_relativeTo solid stretch.paragraphEnd true, ← taken_eq]

end IsExcerpt

/--
What a text has from the first word of a sentence to its last is split into one sentence.  It is the
same sentence, except that a paragraph ends with it.
-/
theorem split_excerpt (text : String) :
    ∃ sentences, split text = .ok sentences ∧ ∀ placed ∈ sentences,
      ∃ front last, placed.2.positions = front ++ [last] ∧
        placed.1 + last.stop ≤ text.length ∧
        split (String.ofList (text.toList.extract placed.1 (placed.1 + last.stop))) =
          .ok [(0, ⟨front ++ [{ last with paragraphEnd := true }]⟩)] := by
  refine ⟨_, split_eq_ok text, fun placed listed => ?_⟩
  obtain ⟨stretch, member, rfl⟩ := List.mem_map.mp listed
  obtain ⟨words, last, words_eq, positions_eq, -⟩ := exists_last_of_mem_stretchesOf member
  obtain ⟨before, excerpt, behind, text_eq, isExcerpt⟩ := exists_isExcerpt_of_mem_stretchesOf member
  have stop_eq := isExcerpt.stop_eq member positions_eq
  refine ⟨_, _, positions_eq, ?_, ?_⟩
  · rw [stop_eq, ← String.length_toList, text_eq, ← List.append_assoc, ← List.length_append]
    exact (List.prefix_append _ _).length_le
  · change split (String.ofList (text.toList.extract stretch.offset _)) = _
    rw [stop_eq, isExcerpt.offset_eq, extract_of_eq_append text_eq, isExcerpt.split_eq, words_eq,
      ← List.cons_append, markEnd_concat]

/-- A sentence whose number keeps one of two periods does so by itself. -/
theorem split_excerpt_of_two_periods :
    ∃ first second third,
      split "¿Va? Son 42.. Sí" = .ok [(0, first), (5, second), (14, third)] ∧
      second.positions.getLast?.map (fun last => (last.stop, last.paragraphEnd)) =
        some (8, false) ∧
      ∃ front last, second.positions = front ++ [last] ∧
        split (String.ofList ("¿Va? Son 42.. Sí".toList.extract 5 (5 + last.stop))) =
          .ok [(0, ⟨front ++ [{ last with paragraphEnd := true }]⟩)] := by
  obtain ⟨sentences, divided, each⟩ := split_excerpt "¿Va? Son 42.. Sí"
  have computed : split "¿Va? Son 42.. Sí" =
      .ok [(0, ⟨[.opening, .ofWord "¿" 0, .ofWord "Va" 1,
          { Position.ofWord "?" 3 with sentenceEnd := true }]⟩),
        (5, ⟨[.opening, .ofWord "Son" 0, { Position.ofWord "42." 4 with spaceBefore := true },
          { Position.ofWord "." 7 with sentenceEnd := true }]⟩),
        (14, ⟨[.opening, { Position.ofWord "Sí" 0 with
          sentenceEnd := true, paragraphEnd := true }]⟩)] := by
    decide +kernel
  cases computed.symm.trans divided
  obtain ⟨front, last, positions_eq, -, alone⟩ :=
    each _ (List.mem_cons_of_mem _ List.mem_cons_self)
  exact ⟨_, _, _, computed, rfl, front, last, positions_eq, alone⟩

end Sentence

end PhraseRules
