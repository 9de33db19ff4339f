import Mathlib.Data.List.Chain
import Mathlib.Data.List.TakeWhile
import PhraseRules.Text.Token

/-!
# Tokens cover the text

The tokens of a text stand one behind the other and put together are the text:
`tokenize_partitions`.  None of them is empty, and those of white space hold nothing else.
-/

namespace PhraseRules

/-! ## Parts of a list -/

section Extract

variable {α : Type} {elements : List α}

theorem extract_append_extract {first second third : Nat} (le : first ≤ second)
    (leOn : second ≤ third) :
    elements.extract first second ++ elements.extract second third =
      elements.extract first third := by
  have length_eq : third - first = second - first + (third - second) := by omega
  have place_eq : first + (second - first) = second := by omega
  rw [List.extract, List.extract, List.extract, length_eq, List.take_add, List.drop_drop, place_eq]

theorem extract_self (place : Nat) : elements.extract place place = [] := by
  rw [List.extract, Nat.sub_self, List.take_zero]

theorem forall_mem_extract_self {holds : α → Prop} (place : Nat) :
    ∀ element ∈ elements.extract place place, holds element := by
  rw [extract_self]
  exact fun _ member => nomatch member

theorem extract_ne_nil_iff {start stop : Nat} (stop_le : stop ≤ elements.length) :
    elements.extract start stop ≠ [] ↔ start < stop := by
  rw [← List.length_pos_iff, List.extract, List.length_take, List.length_drop]
  omega

theorem extract_of_eq_append {before middle after : List α}
    (elements_eq : elements = before ++ (middle ++ after)) :
    elements.extract before.length (before.length + middle.length) = middle := by
  rw [elements_eq, List.extract, List.drop_left, Nat.add_sub_cancel_left, List.take_left]

end Extract

namespace Text

open PhraseRules.Unicode

/-! ## Tokens in their places -/

/-- The tokens stand one behind the other from `start` on, and together they are the characters. -/
inductive Tiles : Nat → List Char → List Token → Prop where
  | nil (start : Nat) : Tiles start [] []
  | cons {token : Token} {rest : List Char} {later : List Token}
      (nonempty : token.text.toList ≠ [])
      (stop_eq : token.stop = token.start + token.text.toList.length)
      (onward : Tiles token.stop rest later) :
      Tiles token.start (token.text.toList ++ rest) (token :: later)

variable {kind : TokenKind} {chars rest : List Char} {start : Nat} {later : List Token}

theorem Tiles.text_ne_nil {tokens : List Token} {token : Token} (tiles : Tiles start chars tokens)
    (member : token ∈ tokens) : token.text.toList ≠ [] := by
  induction tiles with
  | nil => cases member
  | cons nonempty _ _ induction =>
      cases member with
      | head => exact nonempty
      | tail _ member => exact induction member

theorem Tiles.chars_eq_nil (tiles : Tiles start chars []) : chars = [] := by
  cases tiles
  rfl

/-- The first token stands where the characters begin. -/
theorem Tiles.start_eq_of_head? {tokens : List Token} {token : Token}
    (tiles : Tiles start chars tokens) (head_eq : tokens.head? = some token) :
    token.start = start := by
  cases tiles with
  | nil => cases head_eq
  | cons => exact congrArg Token.start (Option.some.inj head_eq).symm

/-- The last token ends where the characters do. -/
theorem Tiles.stop_eq_of_getLast? {tokens : List Token} {token : Token}
    (tiles : Tiles start chars tokens) (last_eq : tokens.getLast? = some token) :
    token.stop = start + chars.length := by
  induction tiles with
  | nil => cases last_eq
  | @cons first rest later _ stop_eq onward induction =>
      rw [List.length_append, ← Nat.add_assoc, ← stop_eq]
      cases later with
      | nil =>
          obtain rfl : first = token := Option.some.inj last_eq
          rw [onward.chars_eq_nil]
          rfl
      | cons => exact induction last_eq

theorem Tiles.isChain {tokens : List Token} (tiles : Tiles start chars tokens) :
    tokens.IsChain fun former latter => former.stop = latter.start := by
  induction tiles with
  | nil => exact .nil
  | cons _ _ onward induction =>
      exact List.isChain_cons.mpr
        ⟨fun _ next => (onward.start_eq_of_head? next).symm, induction⟩

theorem Tiles.flatMap_text {tokens : List Token} (tiles : Tiles start chars tokens) :
    tokens.flatMap (·.text.toList) = chars := by
  induction tiles with
  | nil => rfl
  | cons _ _ _ induction => rw [List.flatMap_cons, induction]

/-- A token is what stands in its place, whatever precedes the characters. -/
theorem Tiles.stands {tokens : List Token} {token : Token} (tiles : Tiles start chars tokens)
    (before : List Char) (start_eq : before.length = start) (member : token ∈ tokens) :
    token.stop ≤ (before ++ chars).length ∧
      (before ++ chars).extract token.start token.stop = token.text.toList := by
  induction tiles generalizing before with
  | nil => cases member
  | @cons first rest later _ stop_eq _ induction =>
      have stop_length : (before ++ first.text.toList).length = first.stop := by
        rw [List.length_append, start_eq, stop_eq]
      cases member with
      | head =>
          refine ⟨?_, ?_⟩
          · rw [← stop_length, ← List.append_assoc]
            exact (List.prefix_append _ _).length_le
          · rw [stop_eq, ← start_eq]
            exact extract_of_eq_append rfl
      | tail _ member =>
          rw [← List.append_assoc]
          exact induction _ stop_length member

theorem Tiles.stop_eq {tokens : List Token} {token : Token} (tiles : Tiles start chars tokens)
    (member : token ∈ tokens) : token.stop = token.start + token.text.toList.length := by
  induction tiles with
  | nil => cases member
  | cons _ stop_eq _ induction =>
      cases member with
      | head => exact stop_eq
      | tail _ member => exact induction member

theorem Tiles.ofChars_cons (nonempty : chars ≠ [])
    (onward : Tiles (start + chars.length) rest later) :
    Tiles start (chars ++ rest) (Token.ofChars chars kind start :: later) := by
  have toList_eq : (Token.ofChars chars kind start).text.toList = chars := String.toList_ofList
  have tiles : Tiles (Token.ofChars chars kind start).start
      ((Token.ofChars chars kind start).text.toList ++ rest)
      (Token.ofChars chars kind start :: later) :=
    .cons (by rwa [toList_eq]) (by rw [toList_eq]; rfl) onward
  rwa [toList_eq] at tiles

/-! ## The kind of a token -/

theorem isNumeric_of_ofInitial {c : Char} (kind_eq : TokenKind.ofInitial c = .number) :
    isNumeric c = true := by
  rw [TokenKind.ofInitial] at kind_eq
  split_ifs at kind_eq with alphabetic numeric
  exact numeric

theorem isWhiteSpace_of_ofInitial {c : Char} (kind_eq : TokenKind.ofInitial c = .whitespace) :
    isWhiteSpace c = true := by
  rw [TokenKind.ofInitial] at kind_eq
  split_ifs at kind_eq with alphabetic numeric blank
  exact blank

/-- A separator of digits is no digit, so it does not begin a number. -/
theorem isDigitSeparator_of_isNumeric {c : Char} (numeric : isNumeric c = true) :
    isDigitSeparator c = false := by
  rw [isDigitSeparator, Bool.or_eq_false_iff, beq_eq_false_iff_ne, beq_eq_false_iff_ne]
  constructor
  · rintro rfl
    exact absurd numeric (by decide +kernel)
  · rintro rfl
    exact absurd numeric (by decide +kernel)

/-! ## Tokens of a stretch -/

/-- A stretch is a token of its own, unless it is a number that ends with a separator. -/
theorem tokensOfStretch_cases (kind : TokenKind) (chars : List Char) (start : Nat) :
    (tokensOfStretch kind chars start = [.ofChars chars kind start] ∧
      (kind = .number → ∀ final ∈ chars.getLast?, isDigitSeparator final = false)) ∨
    ∃ number separator, kind = .number ∧ chars = number ++ [separator] ∧
      isDigitSeparator separator = true ∧
      tokensOfStretch kind chars start = [.ofChars number .number start,
        .ofChars [separator] .punctuation (start + number.length)] := by
  rw [tokensOfStretch.eq_def]
  split
  case h_2 none =>
      refine .inl ⟨rfl, fun kind_eq final last_eq => ?_⟩
      exact (none final kind_eq last_eq).elim
  case h_1 final last_eq =>
      split
      case isFalse keeps =>
          refine .inl ⟨rfl, fun _ other other_eq => ?_⟩
          cases last_eq.symm.trans other_eq
          exact Bool.eq_false_iff.mpr keeps
      case isTrue separates =>
          obtain ⟨number, rfl⟩ := List.getLast?_eq_some_iff.mp last_eq
          rw [List.dropLast_concat]
          exact .inr ⟨number, final, rfl, rfl, separates, rfl⟩

theorem tiles_tokensOfStretch {initial : Char}
    (begins : kind = .number → isDigitSeparator initial = false)
    (onward : Tiles (start + (initial :: chars).length) rest later) :
    Tiles start (initial :: chars ++ rest)
      (tokensOfStretch kind (initial :: chars) start ++ later) := by
  obtain ⟨tokens_eq, -⟩ | ⟨number, separator, kind_eq, chars_eq, separates, tokens_eq⟩ :=
    tokensOfStretch_cases kind (initial :: chars) start
  · rw [tokens_eq]
    exact .ofChars_cons (List.cons_ne_nil _ _) onward
  · -- the first character is a digit, so something is left of the number
    have nonempty : number ≠ [] := by
      rintro rfl
      cases chars_eq
      rw [begins kind_eq] at separates
      cases separates
    rw [tokens_eq]
    rw [chars_eq] at onward ⊢
    rw [List.append_assoc]
    refine .ofChars_cons nonempty (.ofChars_cons (List.cons_ne_nil _ _) ?_)
    rwa [List.length_append, ← Nat.add_assoc] at onward

theorem isWhiteSpace_of_mem_tokensOfStretch {token : Token}
    (blank : kind = .whitespace → ∀ c ∈ chars, isWhiteSpace c = true)
    (member : token ∈ tokensOfStretch kind chars start) (isBlank : token.isBlank = true) :
    ∀ c ∈ token.text.toList, isWhiteSpace c = true := by
  obtain ⟨tokens_eq, -⟩ | ⟨number, separator, -, -, -, tokens_eq⟩ :=
    tokensOfStretch_cases kind chars start
  · rw [tokens_eq, List.mem_singleton] at member
    subst member
    rw [Token.ofChars, String.toList_ofList]
    exact blank (by simpa [Token.isBlank, Token.ofChars] using isBlank)
  · -- neither a number nor a separator is blank
    rw [tokens_eq] at member
    rcases List.mem_cons.mp member with rfl | member
    · cases isBlank
    · cases List.mem_singleton.mp member
      cases isBlank

/-! ## Tokens of a text -/

section Stretches

variable {initial : Char} {run behind : List Char} {token : Token}

/-- A token that begins with `initial` goes on through `run`, but not into `behind`. -/
structure Carries (initial : Char) (run behind : List Char) : Prop where
  through : ∀ c ∈ run, continues initial c = true
  stops : ∀ c ∈ behind.head?, continues initial c = false

theorem carries_takeWhile (initial : Char) (rest : List Char) :
    Carries initial (rest.takeWhile (continues initial)) (rest.dropWhile (continues initial)) where
  through _ := List.mem_takeWhile_imp
  stops c first := by
    have stopped := List.head?_dropWhile_not (continues initial) rest
    rw [Option.mem_def.mp first] at stopped
    exact Bool.eq_false_iff.mpr (by simpa using stopped)

/-- What holds of no characters, and of a stretch with what follows it if it holds of what follows,
holds of all characters. -/
@[elab_as_elim]
theorem stretchInduction {motive : Nat → List Char → Prop} (nil : ∀ start, motive start [])
    (stretch : ∀ start initial run behind, Carries initial run behind →
      motive (start + (initial :: run).length) behind → motive start (initial :: (run ++ behind)))
    (start : Nat) (chars : List Char) : motive start chars := by
  induction start, chars using tokensFrom.induct with
  | case1 start => exact nil start
  | case2 start initial rest _ induction =>
      have holds := stretch start initial _ _ (carries_takeWhile initial rest) induction
      rwa [List.takeWhile_append_dropWhile] at holds

namespace Carries

theorem of_append {before after : List Char} (carries : Carries initial run (before ++ after)) :
    Carries initial run before where
  through := carries.through
  stops c first := carries.stops c (List.mem_head?_append_of_mem_head? first)

/-- The tokens of characters are those of their first stretch and those of what follows it. -/
theorem tokensFrom_eq (carries : Carries initial run behind) (start : Nat) :
    tokensFrom start (initial :: (run ++ behind)) =
      tokensOfStretch (.ofInitial initial) (initial :: run) start ++
        tokensFrom (start + (initial :: run).length) behind := by
  have stopped : behind.takeWhile (continues initial) = [] ∧
      behind.dropWhile (continues initial) = behind := by
    cases behind with
    | nil => exact ⟨rfl, rfl⟩
    | cons c later =>
        have stops : continues initial c = false := carries.stops c rfl
        simp [stops]
  rw [tokensFrom, List.takeWhile_append_of_pos carries.through,
    List.dropWhile_append_of_pos carries.through, stopped.1, stopped.2, List.append_nil]

end Carries

/-- Every token comes out of a maximal stretch in its place. -/
theorem exists_stretch_of_mem_tokensFrom (member : token ∈ tokensFrom start chars) :
    ∃ before initial run behind, chars = before ++ initial :: (run ++ behind) ∧
      Carries initial run behind ∧
      token ∈ tokensOfStretch (.ofInitial initial) (initial :: run) (start + before.length) := by
  induction start, chars using stretchInduction with
  | nil start =>
      rw [tokensFrom] at member
      cases member
  | stretch start initial run behind carries induction =>
      rw [carries.tokensFrom_eq] at member
      rcases List.mem_append.mp member with member | member
      · exact ⟨[], initial, run, behind, rfl, carries, member⟩
      · obtain ⟨before, other, run', behind', behind_eq, carries', member⟩ := induction member
        refine ⟨initial :: run ++ before, other, run', behind', ?_, carries', ?_⟩
        · rw [behind_eq, List.append_assoc, List.cons_append]
        · rwa [List.length_append, ← Nat.add_assoc]

end Stretches

theorem tiles_tokensFrom (start : Nat) (chars : List Char) :
    Tiles start chars (tokensFrom start chars) := by
  induction start, chars using stretchInduction with
  | nil start =>
      rw [tokensFrom]
      exact .nil start
  | stretch start initial run behind carries induction =>
      rw [carries.tokensFrom_eq]
      have begins (kind_eq : TokenKind.ofInitial initial = .number) :
          isDigitSeparator initial = false :=
        isDigitSeparator_of_isNumeric (isNumeric_of_ofInitial kind_eq)
      exact tiles_tokensOfStretch begins induction

/-- Tokens of white space hold nothing else. -/
theorem isWhiteSpace_of_mem_tokensFrom {token : Token} (member : token ∈ tokensFrom start chars)
    (isBlank : token.isBlank = true) : ∀ c ∈ token.text.toList, isWhiteSpace c = true := by
  obtain ⟨before, initial, run, behind, -, carries, made⟩ :=
    exists_stretch_of_mem_tokensFrom member
  refine isWhiteSpace_of_mem_tokensOfStretch (fun kind_eq => ?_) made isBlank
  refine List.forall_mem_cons.mpr ⟨isWhiteSpace_of_ofInitial kind_eq, fun c taken => ?_⟩
  have goesOn := carries.through c taken
  rwa [continues, kind_eq] at goesOn

/-- The tokens of a text stand one behind the other, from its first character to its last, each is
what stands in its place and not empty, and together they are the text. -/
theorem tokenize_partitions (text : String) :
    textOfTokens (tokenize text) = text ∧
      (∀ first ∈ (tokenize text).head?, first.start = 0) ∧
      (tokenize text).IsChain (fun former latter => former.stop = latter.start) ∧
      (∀ last ∈ (tokenize text).getLast?, last.stop = text.length) ∧
      ∀ token ∈ tokenize text, token.text ≠ "" ∧ token.stop ≤ text.length ∧
        text.toList.extract token.start token.stop = token.text.toList := by
  have tiles : Tiles 0 text.toList (tokenize text) := tiles_tokensFrom 0 text.toList
  refine ⟨?_, fun first => tiles.start_eq_of_head?, tiles.isChain, fun last last_eq => ?_,
    fun token member => ?_⟩
  · rw [← String.toList_inj, textOfTokens, String.toList_join, List.flatMap_map]
    exact tiles.flatMap_text
  · rw [tiles.stop_eq_of_getLast? last_eq, Nat.zero_add, String.length_toList]
  · obtain ⟨stop_le, stands⟩ := tiles.stands [] rfl member
    refine ⟨fun none => ?_, ?_, stands⟩
    · exact tiles.text_ne_nil member (by rw [none]; rfl)
    · rwa [List.nil_append, String.length_toList] at stop_le

/-- A number gives up its last separator, which then stands behind it. -/
theorem tokenize_partitions_of_final_period :
    textOfTokens (tokenize "año 42.") = "año 42." ∧
      (⟨"42", .number, 4, 6⟩ : Token) ∈ tokenize "año 42." ∧
      ("año 42.".toList.extract 4 6) = "42".toList ∧
      (tokenize "año 42.").getLast? = some ⟨".", .punctuation, 6, 7⟩ ∧
      (7 : Nat) = "año 42.".length := by
  obtain ⟨joined, -, -, ends, each⟩ := tokenize_partitions "año 42."
  have member : (⟨"42", .number, 4, 6⟩ : Token) ∈ tokenize "año 42." := by decide +kernel
  have last_eq : (tokenize "año 42.").getLast? = some ⟨".", .punctuation, 6, 7⟩ := by
    decide +kernel
  exact ⟨joined, member, (each _ member).2.2, last_eq, ends _ last_eq⟩

end Text

end PhraseRules
