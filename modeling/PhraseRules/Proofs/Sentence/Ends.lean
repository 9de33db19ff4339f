import PhraseRules.Proofs.Sentence.Division
import PhraseRules.Proofs.Text.Cuts

/-!
# Where sentences end

Whether a sentence ends with a word, and a paragraph with it, can be told from the word and the
tokens right behind it: `endsSentence`, `endsParagraph`.  `Takes` cuts tokens where this first says
so, and the sentences of a text are what is cut off again and again, `divides_stretchesFrom`.
-/

namespace PhraseRules.Sentence

open PhraseRules.Text

/-- Whether a paragraph ends before the tokens: they begin with a break between paragraphs, or they
are nothing but white space. -/
def endsParagraph (behind : List Token) : Bool :=
  behind.head?.any Token.isParagraphBreak || behind.all Token.isBlank

/-- Whether a sentence ends with the token: it is a final mark that no other follows, or a paragraph
ends behind it. -/
def endsSentence (token : Token) (behind : List Token) : Bool :=
  token.isSentenceFinal && !behind.head?.any Token.isSentenceFinal || endsParagraph behind

/--
A sentence takes `run` of the tokens `run ++ rest`: it ends with the last token of `run`, and with
no word before.  There may be white space before the words, but no two blank tokens in a row.
-/
inductive Takes : List Token → List Token → Prop where
  | last {token : Token} {rest : List Token} (solid : token.isBlank = false)
      (ends : endsSentence token rest = true) : Takes [token] rest
  | word {token : Token} {run rest : List Token} (solid : token.isBlank = false)
      (goesOn : endsSentence token (run ++ rest) = false) (onward : Takes run rest) :
      Takes (token :: run) rest
  | blank {token : Token} {run rest : List Token} (blank : token.isBlank = true)
      (next : ∀ first ∈ run.head?, first.isBlank = false) (onward : Takes run rest) :
      Takes (token :: run) rest

variable {token : Token} {tokens run rest later : List Token} {pending : List SpacedToken}
  {spaceBefore : Bool}

theorem isBlank_of_isParagraphBreak (breaks : token.isParagraphBreak = true) :
    token.isBlank = true := by
  rw [Token.isParagraphBreak, Bool.and_eq_true] at breaks
  exact breaks.1

/-! ## Single steps -/

theorem stretchesFrom_blank (blank : token.isBlank = true)
    (kept : pending = [] ∨ token.isParagraphBreak = false) :
    stretchesFrom pending spaceBefore (token :: later) = stretchesFrom pending true later := by
  rw [stretchesFrom, if_pos blank, if_neg]
  rw [Bool.and_eq_true, Bool.not_eq_true', not_and, Bool.not_eq_false, List.isEmpty_iff]
  intro breaks
  refine kept.resolve_right ?_
  rw [breaks]
  exact Bool.noConfusion

theorem stretchesFrom_break (breaks : token.isParagraphBreak = true) (some : pending ≠ []) :
    stretchesFrom pending spaceBefore (token :: later) =
      ⟨pending, true⟩ :: stretchesFrom [] true later := by
  rw [stretchesFrom, if_pos (isBlank_of_isParagraphBreak breaks), if_pos]
  simp [breaks, some]

theorem stretchesFrom_final (solid : token.isBlank = false)
    (final : (token.isSentenceFinal && !later.head?.any Token.isSentenceFinal) = true) :
    stretchesFrom pending spaceBefore (token :: later) =
      ⟨pending ++ [⟨token, spaceBefore⟩], endsParagraph later⟩ ::
        stretchesFrom [] false later := by
  rw [stretchesFrom, if_neg (Bool.eq_false_iff.mp solid)]
  simp only
  rw [if_pos final, endsParagraph, Bool.or_comm]

theorem stretchesFrom_word (solid : token.isBlank = false)
    (goesOn : (token.isSentenceFinal && !later.head?.any Token.isSentenceFinal) = false) :
    stretchesFrom pending spaceBefore (token :: later) =
      stretchesFrom (pending ++ [⟨token, spaceBefore⟩]) false later := by
  rw [stretchesFrom, if_neg (Bool.eq_false_iff.mp solid)]
  simp only
  rw [if_neg (Bool.eq_false_iff.mp goesOn)]

/-! ## Whole sentences -/

/-- White space alone makes no sentence, but it ends the one before. -/
theorem stretchesFrom_of_forall_isBlank (blank : ∀ token ∈ tokens, token.isBlank = true) :
    stretchesFrom pending spaceBefore tokens =
      if pending.isEmpty then [] else [⟨pending, true⟩] := by
  induction tokens generalizing pending spaceBefore with
  | nil => rw [stretchesFrom]
  | cons token later induction =>
      have first := blank token List.mem_cons_self
      have behind := fun other member => blank other (List.mem_cons_of_mem token member)
      by_cases kept : pending = [] ∨ token.isParagraphBreak = false
      · rw [stretchesFrom_blank first kept, induction behind]
      · rw [not_or, Bool.not_eq_false] at kept
        rw [stretchesFrom_break kept.2 kept.1, induction behind, if_pos List.isEmpty_nil,
          if_neg (mt List.isEmpty_iff.mp kept.1)]

/-- Where a paragraph ends, a sentence that has words ends as well. -/
theorem stretchesFrom_of_endsParagraph (ends : endsParagraph rest = true) (some : pending ≠ []) :
    stretchesFrom pending spaceBefore rest = ⟨pending, true⟩ :: stretchesFrom [] false rest := by
  rw [endsParagraph, Bool.or_eq_true, List.all_eq_true] at ends
  rcases ends with breaks | blank
  · cases rest with
    | nil => cases breaks
    | cons token later =>
        have breaks : token.isParagraphBreak = true := breaks
        rw [stretchesFrom_break breaks some,
          stretchesFrom_blank (isBlank_of_isParagraphBreak breaks) (.inl rfl)]
  · rw [stretchesFrom_of_forall_isBlank blank, stretchesFrom_of_forall_isBlank blank,
      if_neg (mt List.isEmpty_iff.mp some), if_pos List.isEmpty_nil]

theorem Takes.ne_nil (takes : Takes run rest) : run ≠ [] := by
  cases takes <;> exact List.cons_ne_nil _ _

theorem Takes.head?_append (takes : Takes run rest) : (run ++ rest).head? = run.head? := by
  rw [List.head?_append_of_ne_nil _ takes.ne_nil]

/-- What a sentence takes becomes a stretch.  The induction carries along the words that were read
before; the white space behind the last of them is no break. -/
theorem Takes.stretchesFrom_eq (takes : Takes run rest) (spaceBefore : Bool)
    (kept : pending = [] ∨ ∀ first ∈ run.head?, first.isParagraphBreak = false) :
    stretchesFrom pending spaceBefore (run ++ rest) =
      ⟨pending ++ spacedFrom spaceBefore run, endsParagraph rest⟩ ::
        stretchesFrom [] false rest := by
  induction takes generalizing pending spaceBefore with
  | @last token rest solid ends =>
      rw [spacedFrom, if_neg (Bool.eq_false_iff.mp solid), spacedFrom, List.singleton_append]
      rw [endsSentence, Bool.or_eq_true] at ends
      cases final : token.isSentenceFinal && !rest.head?.any Token.isSentenceFinal with
      | true => rw [stretchesFrom_final solid final]
      | false =>
          rw [final] at ends
          have ends := ends.resolve_left Bool.false_ne_true
          rw [stretchesFrom_word solid final, stretchesFrom_of_endsParagraph ends (by simp), ends]
  | @word token run rest solid goesOn onward induction =>
      rw [endsSentence, Bool.or_eq_false_iff] at goesOn
      rw [spacedFrom, if_neg (Bool.eq_false_iff.mp solid), List.cons_append,
        stretchesFrom_word solid goesOn.1, induction, List.append_assoc, List.singleton_append]
      refine .inr fun first head_eq => ?_
      have goesOn := goesOn.2
      rw [endsParagraph, Bool.or_eq_false_iff, onward.head?_append,
        Option.mem_def.mp head_eq] at goesOn
      exact goesOn.1
  | @blank token run rest blank next onward induction =>
      rw [spacedFrom, if_pos blank, List.cons_append, stretchesFrom_blank blank, induction]
      · refine .inr fun first head_eq => Bool.eq_false_iff.mpr fun breaks => ?_
        have solid := next first head_eq
        rw [isBlank_of_isParagraphBreak breaks] at solid
        cases solid
      · exact kept.imp_right fun kept => kept token rfl

/-- Tokens that are not all blank begin with a sentence. -/
theorem exists_takes (apart : tokens.IsChain fun former latter =>
      former.isBlank = true → latter.isBlank = false)
    (some : ∃ token ∈ tokens, token.isBlank = false) :
    ∃ run rest, tokens = run ++ rest ∧ Takes run rest := by
  induction tokens with
  | nil =>
      obtain ⟨token, member, -⟩ := some
      cases member
  | cons token later induction =>
      obtain ⟨next, apart⟩ := List.isChain_cons.mp apart
      cases blank : token.isBlank with
      | true =>
          obtain ⟨solid, member, solid_eq⟩ := some
          rcases List.mem_cons.mp member with rfl | member
          · rw [blank] at solid_eq
            cases solid_eq
          · obtain ⟨run, rest, rfl, takes⟩ := induction apart ⟨solid, member, solid_eq⟩
            refine ⟨token :: run, rest, rfl, .blank blank (fun first head_eq => ?_) takes⟩
            exact next first (takes.head?_append ▸ head_eq) blank
      | false =>
          cases ends : endsSentence token later with
          | true => exact ⟨[token], later, rfl, .last blank ends⟩
          | false =>
              have someBehind : ∃ token ∈ later, token.isBlank = false := by
                rw [endsSentence, endsParagraph, Bool.or_eq_false_iff, Bool.or_eq_false_iff] at ends
                simpa using ends.2.2
              obtain ⟨run, rest, rfl, takes⟩ := induction apart someBehind
              exact ⟨token :: run, rest, rfl, .word blank ends takes⟩

/-- The stretches are what sentences take of the tokens one behind the other. -/
inductive Divides : List Token → List Stretch → Prop where
  | blank {tokens : List Token} (blank : ∀ token ∈ tokens, token.isBlank = true) :
      Divides tokens []
  | cons {run rest : List Token} {stretches : List Stretch} (takes : Takes run rest)
      (onward : Divides rest stretches) :
      Divides (run ++ rest) (⟨spacedFrom false run, endsParagraph rest⟩ :: stretches)

theorem divides_stretchesFrom (tokens : List Token)
    (apart : tokens.IsChain fun former latter =>
      former.isBlank = true → latter.isBlank = false) :
    Divides tokens (stretchesFrom [] false tokens) := by
  by_cases some : ∃ token ∈ tokens, token.isBlank = false
  · obtain ⟨run, rest, rfl, takes⟩ := exists_takes apart some
    rw [takes.stretchesFrom_eq false (.inl rfl)]
    have shorter : rest.length < (run ++ rest).length := by
      have := List.length_pos_iff.mpr takes.ne_nil
      rw [List.length_append]
      omega
    exact .cons takes (divides_stretchesFrom rest apart.right_of_append)
  · have blank : ∀ token ∈ tokens, token.isBlank = true := by simpa using some
    rw [stretchesFrom_of_forall_isBlank blank]
    exact .blank blank
termination_by tokens.length

theorem divides_stretchesOf (text : String) : Divides (tokenize text) (stretchesOf text) :=
  divides_stretchesFrom _ (isChain_isBlank_tokensFrom 0 text.toList)

/-! ## Marks of tokens -/

/-- The tokens that are not blank, each with the tokens behind it. -/
def solidFrom : List Token → List (Token × List Token)
  | [] => []
  | token :: behind =>
      if token.isBlank then solidFrom behind else (token, behind) :: solidFrom behind

/-- A token, whether a sentence ends with it, and whether a paragraph does. -/
structure Mark where
  text : String
  start : Nat
  sentenceEnd : Bool
  paragraphEnd : Bool
deriving DecidableEq

/-- The mark of a token with the tokens behind it. -/
def markOf (solid : Token × List Token) : Mark :=
  ⟨solid.1.text, solid.1.start, endsSentence solid.1 solid.2, endsParagraph solid.2⟩

/-- The mark of a token with which nothing ends. -/
def innerMark (token : Token) : Mark :=
  ⟨token.text, token.start, false, false⟩

theorem solidFrom_of_forall_isBlank (blank : ∀ token ∈ tokens, token.isBlank = true) :
    solidFrom tokens = [] := by
  induction tokens with
  | nil => rfl
  | cons token later induction =>
      rw [solidFrom, if_pos (blank token List.mem_cons_self)]
      exact induction fun other member => blank other (List.mem_cons_of_mem token member)

/-- Of what a sentence takes, only the last token is marked. -/
theorem Takes.exists_last (takes : Takes run rest) :
    ∃ inner last, run = inner ++ [last] ∧ last.isBlank = false ∧ endsSentence last rest = true ∧
      (solidFrom (run ++ rest)).map markOf =
        (inner.filter (!·.isBlank)).map innerMark ++
          ⟨last.text, last.start, true, endsParagraph rest⟩ :: (solidFrom rest).map markOf := by
  induction takes with
  | @last token rest solid ends =>
      refine ⟨[], token, rfl, solid, ends, ?_⟩
      rw [List.singleton_append, solidFrom, if_neg (Bool.eq_false_iff.mp solid), List.map_cons,
        markOf, ends]
      rfl
  | @word token run rest solid goesOn onward induction =>
      obtain ⟨inner, last, rfl, lastSolid, ends, marks_eq⟩ := induction
      refine ⟨token :: inner, last, rfl, lastSolid, ends, ?_⟩
      have kept := goesOn
      rw [endsSentence, Bool.or_eq_false_iff] at kept
      rw [List.cons_append, solidFrom, if_neg (Bool.eq_false_iff.mp solid), List.map_cons,
        marks_eq, markOf, goesOn, kept.2, List.filter_cons_of_pos (by simp [solid])]
      rfl
  | @blank token run rest blank next onward induction =>
      obtain ⟨inner, last, rfl, lastSolid, ends, marks_eq⟩ := induction
      refine ⟨token :: inner, last, rfl, lastSolid, ends, ?_⟩
      rw [List.cons_append, solidFrom, if_pos blank, marks_eq,
        List.filter_cons_of_neg (by simp [blank])]

/-! ## Flags of positions -/

variable {text : String} {stretch : Stretch}

theorem markEnd_concat (paragraphEnd : Bool) (front : List Position) (last : Position) :
    markEnd paragraphEnd (front ++ [last]) =
      front ++ [{ last with sentenceEnd := true, paragraphEnd := paragraphEnd }] := by
  induction front with
  | nil => rfl
  | cons position later induction =>
      rw [List.cons_append, markEnd, induction, List.cons_append]
      exact fun none => List.append_ne_nil_of_right_ne_nil later (List.cons_ne_nil last []) none

/-- Until the end of the sentence is marked no position is. -/
theorem unmarked_of_mem {position : Position}
    (member : position ∈ Position.opening :: stretch.words) :
    position.sentenceEnd = false ∧ position.paragraphEnd = false := by
  rcases List.mem_cons.mp member with rfl | member
  · exact ⟨rfl, rfl⟩
  · obtain ⟨spaceBefore, token, rfl⟩ := exists_positionOfToken_of_mem_words member
    exact ⟨rfl, rfl⟩

/-- Only the last position of a sentence is marked. -/
theorem exists_last_of_mem_stretchesOf (member : stretch ∈ stretchesOf text) :
    ∃ words last, stretch.words = words ++ [last] ∧ stretch.sentence.positions =
      (.opening :: words) ++
        [{ last with sentenceEnd := true, paragraphEnd := stretch.paragraphEnd }] ∧
      ∀ position ∈ Position.opening :: words,
        position.sentenceEnd = false ∧ position.paragraphEnd = false := by
  have words_eq := (List.dropLast_concat_getLast (words_ne_nil member)).symm
  refine ⟨_, _, words_eq, ?_, fun position standing => ?_⟩
  · rw [Stretch.sentence, ← markEnd_concat, List.cons_append, ← words_eq]
  · have member : position ∈ Position.opening :: stretch.words :=
      List.cons_subset_cons _ (List.dropLast_subset _) standing
    exact unmarked_of_mem member

/-- The mark of a position of a sentence that begins at an offset. -/
def markAt (offset : Nat) (position : Position) : Mark :=
  ⟨position.text, offset + position.start, position.sentenceEnd, position.paragraphEnd⟩

/-- The positions of a sentence have the marks of its tokens, of which only the last one is marked.
-/
theorem map_markAt_sentence (member : stretch ∈ stretchesOf text) {inner : List Token}
    (tokens_eq : stretch.tokens.map (·.token) = inner ++ [token]) :
    (stretch.sentence.positions.drop 1).map (markAt stretch.offset) =
      inner.map innerMark ++ [⟨token.text, token.start, true, stretch.paragraphEnd⟩] := by
  obtain ⟨words, last, -, positions_eq, unmarked⟩ := exists_last_of_mem_stretchesOf member
  have places_eq := congrArg (List.map fun token : Token => (token.text, token.start)) tokens_eq
  rw [List.map_map, List.map_append] at places_eq
  have places_eq := (map_words_eq member).trans places_eq
  rw [positions_eq, List.cons_append, List.drop_one, List.tail_cons] at places_eq ⊢
  rw [List.map_append] at places_eq ⊢
  obtain ⟨inner_eq, last_eq⟩ := List.append_inj' places_eq rfl
  congr 1
  · calc words.map (markAt stretch.offset)
        = (words.map fun position => (position.text, stretch.offset + position.start)).map
            (fun place => ⟨place.1, place.2, false, false⟩) := by
          rw [List.map_map]
          refine List.map_congr_left fun position standing => ?_
          obtain ⟨sentenceEnd, paragraphEnd⟩ := unmarked position (List.mem_cons_of_mem _ standing)
          rw [markAt, sentenceEnd, paragraphEnd]
          rfl
      _ = (inner.map fun token => (token.text, token.start)).map
            (fun place => ⟨place.1, place.2, false, false⟩) := by rw [inner_eq]
      _ = inner.map innerMark := List.map_map
  · obtain ⟨text_eq, start_eq⟩ := Prod.mk.inj (List.singleton_inj.mp last_eq)
    rw [List.map_singleton, markAt, text_eq, start_eq]

theorem flatMap_map_markAt {stretches : List Stretch} (divides : Divides tokens stretches)
    (made : ∀ stretch ∈ stretches, stretch ∈ stretchesOf text) :
    (stretches.flatMap fun stretch =>
        (stretch.sentence.positions.drop 1).map (markAt stretch.offset)) =
      (solidFrom tokens).map markOf := by
  induction divides with
  | blank blank =>
      rw [solidFrom_of_forall_isBlank blank]
      rfl
  | @cons run rest stretches takes onward induction =>
      obtain ⟨member, madeBehind⟩ := List.forall_mem_cons.mp made
      obtain ⟨inner, last, rfl, solid, -, marks_eq⟩ := takes.exists_last
      rw [List.flatMap_cons, induction madeBehind, marks_eq, map_markAt_sentence member,
        List.append_assoc, List.singleton_append]
      rw [map_token_spacedFrom, List.filter_append, List.filter_cons_of_pos (by simp [solid])]
      rfl

/--
Of the positions of a sentence just the last is marked as its end.  The words of the sentences, put
one behind the other, are the tokens that are not blank, and a word is marked as the end of its
sentence, or of a paragraph, just if its token and the tokens behind it tell so.
-/
theorem split_marks_ends (text : String) :
    ∃ sentences, split text = .ok sentences ∧
      (∀ placed ∈ sentences, ∃ front last, placed.2.positions = front ++ [last] ∧
        last.sentenceEnd = true ∧
        ∀ position ∈ front, position.sentenceEnd = false ∧ position.paragraphEnd = false) ∧
      (sentences.flatMap fun placed => (placed.2.positions.drop 1).map (markAt placed.1)) =
        (solidFrom (tokenize text)).map markOf := by
  refine ⟨_, split_eq_ok text, fun placed listed => ?_, ?_⟩
  · obtain ⟨stretch, member, rfl⟩ := List.mem_map.mp listed
    obtain ⟨words, last, -, positions_eq, unmarked⟩ := exists_last_of_mem_stretchesOf member
    exact ⟨_, _, positions_eq, rfl, unmarked⟩
  · rw [List.flatMap_map]
    exact flatMap_map_markAt (divides_stretchesOf text) fun _ => id

/-- The first of two final marks ends nothing, and a break ends a sentence without one. -/
theorem split_marks_ends_of_three_sentences :
    ∃ first second third,
      split "¿Va?! No\n\nSí" = .ok [(0, first), (6, second), (10, third)] ∧
      ([(0, first), (6, second), (10, third)].flatMap fun placed =>
          (placed.2.positions.drop 1).map (markAt placed.1)) =
        [⟨"¿", 0, false, false⟩, ⟨"Va", 1, false, false⟩, ⟨"?", 3, false, false⟩,
          ⟨"!", 4, true, false⟩, ⟨"No", 6, true, true⟩, ⟨"Sí", 10, true, true⟩] ∧
      ∃ front last, second.positions = front ++ [last] ∧ last.sentenceEnd = true := by
  obtain ⟨sentences, divided, each, marks_eq⟩ := split_marks_ends "¿Va?! No\n\nSí"
  have computed : split "¿Va?! No\n\nSí" =
      .ok [(0, ⟨[.opening, .ofWord "¿" 0, .ofWord "Va" 1, .ofWord "?" 3,
          { Position.ofWord "!" 4 with sentenceEnd := true }]⟩),
        (6, ⟨[.opening, { Position.ofWord "No" 0 with
          sentenceEnd := true, paragraphEnd := true }]⟩),
        (10, ⟨[.opening, { Position.ofWord "Sí" 0 with
          sentenceEnd := true, paragraphEnd := true }]⟩)] := by
    decide +kernel
  cases computed.symm.trans divided
  refine ⟨_, _, _, computed, ?_, ?_⟩
  · rw [marks_eq]
    decide +kernel
  · obtain ⟨front, last, positions_eq, ends, -⟩ :=
      each _ (List.mem_cons_of_mem _ List.mem_cons_self)
    exact ⟨front, last, positions_eq, ends⟩

end PhraseRules.Sentence
