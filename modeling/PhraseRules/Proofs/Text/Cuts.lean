import PhraseRules.Proofs.Text.Tokens

/-!
# Cutting a text between its tokens

Whether a token follows another is told by their kinds, and a text that is cut between two tokens
has on both sides the tokens that it had there, `exists_cut`.  Only a number must not be cut off
from the separator that it gave up: these come out of one stretch.
-/

namespace PhraseRules.Text

open PhraseRules.Unicode

variable {initial : Char} {run behind chars : List Char} {start : Nat} {token : Token}
  {front back : List Token}

/-! ## Kinds of neighbours -/

/-- The first token is of the kind that its first character tells. -/
theorem exists_kind_of_head?_tokensFrom (head_eq : (tokensFrom start chars).head? = some token) :
    ∃ c ∈ chars.head?, token.kind = .ofInitial c := by
  cases start, chars using stretchInduction with
  | nil start =>
      rw [tokensFrom] at head_eq
      cases head_eq
  | stretch start initial run behind carries =>
      refine ⟨initial, rfl, ?_⟩
      rw [carries.tokensFrom_eq] at head_eq
      obtain ⟨tokens_eq, -⟩ | ⟨_, _, kind_eq, -, -, tokens_eq⟩ :=
        tokensOfStretch_cases (.ofInitial initial) (initial :: run) start
      · rw [tokens_eq] at head_eq
        cases head_eq
        rfl
      · rw [tokens_eq] at head_eq
        cases head_eq
        exact kind_eq.symm

theorem Carries.isBlank_eq_false (carries : Carries initial run behind)
    (blank : TokenKind.ofInitial initial = .whitespace)
    (head_eq : (tokensFrom start behind).head? = some token) : token.isBlank = false := by
  obtain ⟨c, first, kind_eq⟩ := exists_kind_of_head?_tokensFrom head_eq
  have stops := carries.stops c first
  rw [continues, blank] at stops
  refine Bool.eq_false_iff.mpr fun isBlank => ?_
  rw [Token.isBlank, kind_eq, beq_iff_eq] at isBlank
  rw [isWhiteSpace_of_ofInitial isBlank] at stops
  cases stops

/-- White space is one token, however long it is. -/
theorem isChain_isBlank_tokensFrom (start : Nat) (chars : List Char) :
    (tokensFrom start chars).IsChain fun former latter =>
      former.isBlank = true → latter.isBlank = false := by
  induction start, chars using stretchInduction with
  | nil start =>
      rw [tokensFrom]
      exact .nil
  | stretch start initial run behind carries induction =>
      rw [carries.tokensFrom_eq]
      obtain ⟨tokens_eq, -⟩ | ⟨_, _, -, -, -, tokens_eq⟩ :=
        tokensOfStretch_cases (.ofInitial initial) (initial :: run) start
      · rw [tokens_eq]
        refine List.isChain_cons.mpr ⟨fun next head_eq isBlank => ?_, induction⟩
        exact carries.isBlank_eq_false (beq_iff_eq.mp isBlank) head_eq
      · -- neither a number nor a separator is blank
        rw [tokens_eq]
        refine List.isChain_cons.mpr ⟨fun _ _ isBlank => ?_, ?_⟩
        · cases isBlank
        · refine List.isChain_cons.mpr ⟨fun _ _ isBlank => ?_, induction⟩
          cases isBlank

/-! ## Cutting a text between tokens -/

/-- A cut behind a first stretch is found by a cut in what follows. -/
theorem Carries.exists_cut {later : List Token} (carries : Carries initial run behind)
    (cut : ∃ before after, behind = before ++ after ∧
      tokensFrom (start + (initial :: run).length) before = later ∧
      tokensFrom (start + (initial :: run).length + before.length) after = back) :
    ∃ before after, initial :: (run ++ behind) = before ++ after ∧
      tokensFrom start before =
        tokensOfStretch (.ofInitial initial) (initial :: run) start ++ later ∧
      tokensFrom (start + before.length) after = back := by
  obtain ⟨before, after, rfl, before_eq, after_eq⟩ := cut
  refine ⟨initial :: (run ++ before), after, ?_, ?_, ?_⟩
  · rw [List.cons_append, List.append_assoc]
  · rw [carries.of_append.tokensFrom_eq, before_eq]
  · rwa [← List.cons_append, List.length_append, ← Nat.add_assoc]

/-- The tokens before and behind a cut are those of the two parts of the text, unless a number was
cut off from its separator. -/
theorem exists_cut (tokens_eq : tokensFrom start chars = front ++ back)
    (whole : ∀ last ∈ front.getLast?, last.kind = .number →
      ∀ next ∈ back.head?, next.isBlank = true) :
    ∃ before after, chars = before ++ after ∧ tokensFrom start before = front ∧
      tokensFrom (start + before.length) after = back := by
  induction start, chars using stretchInduction generalizing front with
  | nil start =>
      rw [tokensFrom] at tokens_eq
      obtain ⟨rfl, rfl⟩ := List.append_eq_nil_iff.mp tokens_eq.symm
      exact ⟨[], [], rfl, by rw [tokensFrom], by rw [tokensFrom]⟩
  | stretch start initial run behind carries induction =>
      have behindFirst {former : Token} {later : List Token}
          (whole : ∀ last ∈ (former :: later).getLast?, last.kind = .number →
            ∀ next ∈ back.head?, next.isBlank = true) :
          ∀ last ∈ later.getLast?, last.kind = .number →
            ∀ next ∈ back.head?, next.isBlank = true := by
        intro last last_eq
        refine whole last ?_
        rw [List.getLast?_cons, Option.mem_def.mp last_eq]
        rfl
      cases front with
      | nil => exact ⟨[], _, rfl, by rw [tokensFrom], tokens_eq⟩
      | cons token front =>
          rw [carries.tokensFrom_eq] at tokens_eq
          obtain ⟨stretch_eq, -⟩ | ⟨number, separator, -, -, -, stretch_eq⟩ :=
            tokensOfStretch_cases (.ofInitial initial) (initial :: run) start
          · rw [stretch_eq] at tokens_eq
            obtain ⟨rfl, later_eq⟩ := List.cons.inj tokens_eq
            have cut := carries.exists_cut (induction later_eq (behindFirst whole))
            rwa [stretch_eq] at cut
          · rw [stretch_eq] at tokens_eq
            obtain ⟨rfl, later_eq⟩ := List.cons.inj tokens_eq
            cases front with
            | nil =>
                -- here the number would be cut off from its separator
                have separated := whole _ rfl rfl _ (congrArg List.head? later_eq).symm
                cases separated
            | cons separated front =>
                obtain ⟨rfl, behind_eq⟩ := List.cons.inj later_eq
                have cut := carries.exists_cut
                  (induction behind_eq (behindFirst (behindFirst whole)))
                rwa [stretch_eq] at cut

/-! ## Where a text begins -/

/-- The token as it is counted from an offset on. -/
def Token.relativeTo (offset : Nat) (token : Token) : Token :=
  { token with start := token.start - offset, stop := token.stop - offset }

theorem Token.relativeTo_ofChars (chars : List Char) (kind : TokenKind) (offset start : Nat) :
    (Token.ofChars chars kind (offset + start)).relativeTo offset = .ofChars chars kind start := by
  rw [ofChars, relativeTo, Nat.add_assoc, Nat.add_sub_cancel_left, Nat.add_sub_cancel_left]
  rfl

/-- The tokens of characters do not depend on where these stand. -/
theorem map_relativeTo_tokensFrom (offset start : Nat) (chars : List Char) :
    (tokensFrom (offset + start) chars).map (·.relativeTo offset) = tokensFrom start chars := by
  induction start, chars using stretchInduction with
  | nil start =>
      rw [tokensFrom, tokensFrom]
      rfl
  | stretch start initial run behind carries induction =>
      rw [carries.tokensFrom_eq, carries.tokensFrom_eq, List.map_append, Nat.add_assoc, induction]
      congr 1
      rw [tokensOfStretch.eq_def, tokensOfStretch.eq_def]
      split
      · split
        · simp [Token.relativeTo_ofChars, Nat.add_assoc]
        · simp [Token.relativeTo_ofChars]
      · simp [Token.relativeTo_ofChars]

end PhraseRules.Text
