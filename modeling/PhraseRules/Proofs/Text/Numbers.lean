import Mathlib.Data.List.DropRight
import PhraseRules.Proofs.Text.Tokens

/-!
# How far a number goes

A number begins with a digit and goes on through digits and separators.  Of the separators behind
its last digit it gives up only one, `number_keeps_separators`, so it ends with a digit just if no
two of them follow: `ends_numeric_iff`.
-/

namespace PhraseRules.Text

open PhraseRules.Unicode

variable {initial : Char} {run behind chars digits separators : List Char} {start : Nat}
  {kind : TokenKind} {token : Token}

/--
A number as it stands in a text: the characters from its first digit to its last, the separators
behind, and then neither a digit nor a separator.
-/
structure NumberAt (text : List Char) (start : Nat) (digits separators : List Char) : Prop where
  stands : ∃ before behind, text = before ++ (digits ++ separators) ++ behind ∧
    before.length = start ∧
    ∀ c ∈ behind.head?, isNumeric c = false ∧ isDigitSeparator c = false
  begins : digits.head?.any isNumeric = true
  ends : digits.getLast?.any isNumeric = true
  within : ∀ c ∈ digits, isNumeric c = true ∨ isDigitSeparator c = true
  separate : ∀ c ∈ separators, isDigitSeparator c = true

theorem continues_number (kind_eq : TokenKind.ofInitial initial = .number) (c : Char) :
    continues initial c = (isNumeric c || isDigitSeparator c) := by
  rw [continues, kind_eq, isDigitSeparator]
  exact Bool.or_assoc _ _ _

theorem Carries.isNumeric_or_isDigitSeparator (carries : Carries initial run behind)
    (kind_eq : TokenKind.ofInitial initial = .number) :
    ∀ c ∈ initial :: run, isNumeric c = true ∨ isDigitSeparator c = true := by
  refine List.forall_mem_cons.mpr ⟨.inl (isNumeric_of_ofInitial kind_eq), fun c member => ?_⟩
  rw [← Bool.or_eq_true, ← continues_number kind_eq]
  exact carries.through c member

/-- The separators at the end of a stretch of a number, and the number without them. -/
theorem Carries.numberAt (carries : Carries initial run behind)
    (kind_eq : TokenKind.ofInitial initial = .number) (before : List Char) :
    NumberAt (before ++ initial :: (run ++ behind)) before.length
      ((initial :: run).rdropWhile isDigitSeparator)
      ((initial :: run).rtakeWhile isDigitSeparator) := by
  have numeric := isNumeric_of_ofInitial kind_eq
  have nonempty : (initial :: run).rdropWhile isDigitSeparator ≠ [] := by
    intro none
    have separates := List.rdropWhile_eq_nil_iff.mp none initial List.mem_cons_self
    rw [isDigitSeparator_of_isNumeric numeric] at separates
    cases separates
  have digitsBegin := List.rdropWhile_prefix isDigitSeparator (l := initial :: run)
  have within : ∀ c ∈ (initial :: run).rdropWhile isDigitSeparator,
      isNumeric c = true ∨ isDigitSeparator c = true :=
    fun c member => carries.isNumeric_or_isDigitSeparator kind_eq c (digitsBegin.subset member)
  refine ⟨⟨before, behind, ?_, rfl, fun c first => ?_⟩, ?_, ?_, within, ?_⟩
  · rw [List.rdropWhile_append_rtakeWhile, List.append_assoc]
    rfl
  · rw [← Bool.or_eq_false_iff, ← continues_number kind_eq]
    exact carries.stops c first
  · obtain ⟨first, later, digits_eq⟩ := List.exists_cons_of_ne_nil nonempty
    rw [digits_eq] at digitsBegin ⊢
    rw [List.cons_prefix_cons] at digitsBegin
    rw [digitsBegin.1]
    exact numeric
  · rw [List.getLast?_eq_some_getLast nonempty]
    refine (within _ (List.getLast_mem nonempty)).resolve_right ?_
    exact List.rdropWhile_last_not isDigitSeparator _ nonempty
  · exact fun c => List.mem_rtakeWhile_imp

/-- What a number keeps of its stretch. -/
theorem toList_text_of_number (member : token ∈ tokensOfStretch kind chars start)
    (number : token.kind = .number) :
    kind = .number ∧ token.start = start ∧ token.text.toList =
      chars.rdropWhile isDigitSeparator ++ (chars.rtakeWhile isDigitSeparator).dropLast := by
  obtain ⟨tokens_eq, keeps⟩ | ⟨number, separator, kind_eq, rfl, separates, tokens_eq⟩ :=
    tokensOfStretch_cases kind chars start
  · rw [tokens_eq, List.mem_singleton] at member
    subst member
    have ends_kept : ∀ nonempty : chars ≠ [], ¬isDigitSeparator (chars.getLast nonempty) = true :=
      fun nonempty => Bool.eq_false_iff.mp
        (keeps number _ (List.getLast?_eq_some_getLast nonempty))
    refine ⟨number, rfl, ?_⟩
    rw [List.rdropWhile_eq_self_iff.mpr ends_kept, List.rtakeWhile_eq_nil_iff.mpr ends_kept,
      List.dropLast_nil, List.append_nil, Token.ofChars, String.toList_ofList]
  · rw [tokens_eq] at member
    rcases List.mem_cons.mp member with rfl | member
    · refine ⟨kind_eq, rfl, ?_⟩
      rw [List.rdropWhile_concat_pos _ _ _ separates, List.rtakeWhile_concat_pos _ _ _ separates,
        List.dropLast_concat, List.rdropWhile_append_rtakeWhile, Token.ofChars,
        String.toList_ofList]
    · cases List.mem_singleton.mp member
      cases number

namespace NumberAt

variable {text : List Char}

theorem begins_text (stands : NumberAt text start digits separators) (kept : List Char) :
    (digits ++ kept).head?.any isNumeric = true := by
  have begins := stands.begins
  cases digits with
  | nil => cases begins
  | cons => exact begins

/-- With a separator kept, a number does not end with a digit. -/
theorem ends_text_iff (stands : NumberAt text start digits separators) :
    (digits ++ separators.dropLast).getLast?.any isNumeric = true ↔ separators.length ≤ 1 := by
  constructor
  · intro numeric
    by_contra several
    have nonempty : separators.dropLast ≠ [] := by
      rw [← List.length_pos_iff, List.length_dropLast]
      omega
    rw [List.getLast?_append_of_ne_nil _ nonempty, List.getLast?_eq_some_getLast nonempty]
      at numeric
    have separates := stands.separate _ (List.dropLast_subset _ (List.getLast_mem nonempty))
    rw [isDigitSeparator_of_isNumeric numeric] at separates
    cases separates
  · intro few
    have none : separators.dropLast = [] := by
      rw [← List.length_eq_zero_iff, List.length_dropLast]
      omega
    rw [none, List.append_nil]
    exact stands.ends

end NumberAt

/-- A number begins with a digit and goes through its last digit, but also through all of the
separators behind that except the last.  So it ends with a digit just if at most one follows. -/
theorem number_keeps_separators (text : String) :
    ∀ token ∈ tokenize text, token.kind = .number →
      ∃ digits separators, NumberAt text.toList token.start digits separators ∧
        token.text.toList = digits ++ separators.dropLast ∧
        token.text.toList.head?.any isNumeric = true ∧
        (token.text.toList.getLast?.any isNumeric = true ↔ separators.length ≤ 1) := by
  intro token member number
  obtain ⟨before, initial, run, behind, text_eq, carries, made⟩ :=
    exists_stretch_of_mem_tokensFrom member
  obtain ⟨kind_eq, start_eq, chars_eq⟩ := toList_text_of_number made number
  have stands := carries.numberAt kind_eq before
  rw [Nat.zero_add] at start_eq
  rw [← text_eq, ← start_eq] at stands
  refine ⟨_, _, stands, chars_eq, ?_, ?_⟩
  · rw [chars_eq]
    exact stands.begins_text _
  · rw [chars_eq]
    exact stands.ends_text_iff

/-- A number followed by a comma and a period keeps the comma. -/
theorem number_keeps_separators_of_comma_and_period :
    (⟨"3.14,", .number, 4, 9⟩ : Token) ∈ tokenize "son 3.14,. " ∧
      ∃ digits separators, NumberAt "son 3.14,. ".toList 4 digits separators ∧
        "3.14,".toList = digits ++ separators.dropLast ∧ 1 < separators.length := by
  have member : (⟨"3.14,", .number, 4, 9⟩ : Token) ∈ tokenize "son 3.14,. " := by decide +kernel
  obtain ⟨digits, separators, stands, chars_eq, -, ends_iff⟩ :=
    number_keeps_separators "son 3.14,. " _ member rfl
  refine ⟨member, digits, separators, stands, chars_eq, ?_⟩
  rw [← Nat.not_le, ← ends_iff]
  decide +kernel

/-- Of an ellipsis behind a number, all but the last period is part of the number. -/
theorem exists_number_ending_with_period :
    ∃ token ∈ tokenize "42...", token.kind = .number ∧
      ¬token.text.toList.getLast?.any isNumeric = true :=
  ⟨⟨"42..", .number, 0, 4⟩, by decide +kernel, rfl, by decide +kernel⟩

end PhraseRules.Text
