import PhraseRules.Proofs.Regex.Rests

/-!
# Reading parts that are enclosed

An expression that is put between parentheses is read as it would be alone, unless it takes the
parenthesis behind it, or what follows there, for a part of itself.  For each reader of blanks,
numbers, names and escapes it is shown what it can find in a text that is followed by `)$`.
-/

namespace PhraseRules.Regex

open PhraseRules.Unicode

variable {extended : Bool} {text left : List Char}

/-- What closes the group around an expression and asks for the end of the text. -/
def closing : List Char :=
  [')', '$']

/--
With the closing behind it the text is read as it is alone, or the parenthesis is taken for a part
of what is read.
-/
def ReadsAlike {α : Type} (read : List Char → Except Fault (α × List Char)) (text : List Char) :
    Prop :=
  ∀ value left, read (text ++ closing) = .ok (value, left) →
    (∃ own, left = own ++ closing ∧ read text = .ok (value, own)) ∨ left <:+ ['$']

/-- What begins with other characters begins with them before the closing. -/
theorem exists_of_append_closing (before : List Char) {rest : List Char}
    (equal : text ++ closing = before ++ rest) (other : ')' ∉ before) :
    ∃ own, text = before ++ own ∧ rest = own ++ closing := by
  rcases List.append_eq_append_iff.mp equal with ⟨more, rfl, closing_eq⟩ | ⟨own, text_eq, rest_eq⟩
  · cases more with
    | nil => exact ⟨[], by rw [List.append_nil, List.append_nil], closing_eq.symm⟩
    | cons c later =>
        rcases List.cons.inj closing_eq with ⟨rfl, -⟩
        exact absurd (List.mem_append_right _ List.mem_cons_self) other
  · exact ⟨own, text_eq, rest_eq⟩

/-! ## Blanks, counts and names -/

theorem dropBlanks_append_closing (inComment : Bool) (text : List Char) :
    dropBlanks inComment (text ++ closing) = dropBlanks inComment text ++ closing ∨
      dropBlanks inComment (text ++ closing) = [] := by
  induction text generalizing inComment with
  | nil =>
      cases inComment with
      | false => exact Or.inl (by decide +kernel)
      | true => exact Or.inr (by decide +kernel)
  | cons c rest induction =>
      rw [List.cons_append, dropBlanks, dropBlanks]
      split_ifs
      · exact induction _
      · exact induction _
      · exact induction _
      · exact Or.inl rfl

theorem skip_append_closing (extended : Bool) (text : List Char) :
    skip extended (text ++ closing) = skip extended text ++ closing ∨
      skip extended (text ++ closing) = [] := by
  cases extended with
  | false => exact Or.inl rfl
  | true => exact dropBlanks_append_closing false text

theorem readWhile_append_closing (extended : Bool) (wanted : Char → Bool) (inComment : Bool)
    (text : List Char) :
    readWhile extended wanted inComment (text ++ closing) =
        ((readWhile extended wanted inComment text).1,
          (readWhile extended wanted inComment text).2 ++ closing) ∨
      (readWhile extended wanted inComment (text ++ closing)).2 <:+ ['$'] := by
  induction text generalizing inComment with
  | nil =>
      have behind := fun inComment => readWhile_suffix extended wanted inComment ['$']
      rw [List.nil_append, closing, readWhile, readWhile]
      split_ifs
      · exact Or.inr (behind _)
      · exact Or.inr (behind _)
      · exact Or.inr (behind _)
      · exact Or.inr (behind _)
      · exact Or.inl rfl
  | cons c rest induction =>
      rw [List.cons_append, readWhile, readWhile]
      split_ifs
      · exact induction _
      · exact induction _
      · exact induction _
      · rcases induction false with alike | taken
        · left
          rw [alike]
        · exact Or.inr taken
      · exact Or.inl rfl

/-- What stops the reader is not what it wants. -/
theorem not_wanted_of_readWhile {wanted : Char → Bool} {inComment : Bool} {c : Char}
    {rest : List Char} (stops : (readWhile extended wanted inComment text).2 = c :: rest) :
    wanted c = false := by
  induction text generalizing inComment with
  | nil => cases stops
  | cons first later induction =>
      rw [readWhile] at stops
      split_ifs at stops with commented blank sign wantedFirst
      · exact induction stops
      · exact induction stops
      · exact induction stops
      · exact induction stops
      · cases stops
        simpa using wantedFirst

theorem dropWhile_append_closing {wanted : Char → Bool} (stops : wanted ')' = false) :
    (text ++ closing).dropWhile wanted = text.dropWhile wanted ++ closing := by
  rw [List.dropWhile_append]
  split
  case isTrue isEmpty =>
      rw [List.isEmpty_iff.mp isEmpty, closing, List.dropWhile_cons, stops]
      rfl
  case isFalse => rfl

theorem readGreed_append_closing (text : List Char) :
    readGreed (text ++ closing) = ((readGreed text).1, (readGreed text).2 ++ closing) := by
  cases text with
  | nil => rfl
  | cons c rest =>
      by_cases isSign : c = '?'
      · rw [isSign]
        rfl
      · rw [List.cons_append, readGreed, readGreed]
        · rfl
        · exact fun _ equal => isSign (List.cons.inj equal).1
        · exact fun _ equal => isSign (List.cons.inj equal).1

theorem readsAlike_readCount : ReadsAlike (readCount extended) text := by
  intro count left readEq
  have blank : isWhiteSpace ')' = false := by decide +kernel
  simp only [readCount] at readEq ⊢
  rw [dropWhile_append_closing blank] at readEq
  rcases readWhile_append_closing extended Char.isDigit false (text.dropWhile isWhiteSpace) with
    alike | taken
  · rw [alike] at readEq
    simp only [dropWhile_append_closing blank] at readEq
    split at readEq
    case isTrue => cases readEq
    case isFalse counted =>
        cases readEq
        rw [if_neg counted]
        exact Or.inl ⟨_, rfl, rfl⟩
  · split at readEq
    case isTrue => cases readEq
    case isFalse =>
        cases readEq
        exact Or.inr ((List.dropWhile_suffix _).trans taken)

/-- What stops within the text stops there before the closing too. -/
theorem span_append_closing {wanted : Char → Bool} {c : Char} {rest : List Char}
    (stops : text.dropWhile wanted = c :: rest) :
    (text ++ closing).takeWhile wanted = text.takeWhile wanted ∧
      (text ++ closing).dropWhile wanted = c :: (rest ++ closing) := by
  constructor
  · rw [List.takeWhile_append, if_neg]
    intro whole
    have split := congrArg List.length (List.takeWhile_append_dropWhile (p := wanted) (l := text))
    rw [stops, List.length_append, List.length_cons] at split
    omega
  · rw [List.dropWhile_append, stops]
    rfl

theorem dropWhile_append_closing_eq_nil {wanted : Char → Bool}
    (takes : closing.dropWhile wanted = []) (whole : text.dropWhile wanted = []) :
    (text ++ closing).dropWhile wanted = [] := by
  rw [List.dropWhile_append, whole]
  exact takes

theorem readName_append_closing {name : String}
    (readEq : readName (text ++ closing) = .ok (name, left)) :
    ∃ own, left = own ++ closing ∧ readName text = .ok (name, own) := by
  simp only [readName] at readEq ⊢
  cases ends : text.dropWhile (· != '>') with
  | nil =>
      rw [dropWhile_append_closing_eq_nil (by decide) ends] at readEq
      split at readEq
      case h_1 impossible => cases impossible
      case h_2 => cases readEq
  | cons c rest =>
      rcases span_append_closing ends with ⟨taken, behind⟩
      rw [taken, behind] at readEq
      split at readEq
      case h_1 taken_eq equal =>
          cases equal
          split at readEq
          case isTrue named =>
              cases readEq
              refine ⟨rest, rfl, ?_⟩
              rw [taken_eq]
              simp only
              rw [if_pos named]
          case isFalse => cases readEq
      case h_2 => cases readEq

/-! ## Escapes -/

theorem readsAlike_readHexDigits {count : Nat} :
    ReadsAlike (readHexDigits extended count) text := by
  induction count generalizing text with
  | zero =>
      intro digits left readEq
      cases readEq
      exact Or.inl ⟨text, rfl, rfl⟩
  | succ count induction =>
      intro digits left readEq
      cases text with
      | nil => cases readEq
      | cons c rest =>
          rw [List.cons_append, readHexDigits] at readEq
          rw [readHexDigits]
          split at readEq
          case isTrue isDigit =>
              rcases Outcome.bind_eq_ok_iff.mp readEq with ⟨⟨others, remaining⟩, readOn, equal⟩
              cases equal
              rw [if_pos isDigit]
              rcases skip_append_closing extended rest with alike | blank
              · rw [alike] at readOn
                rcases induction others left readOn with ⟨own, rfl, readOwn⟩ | taken
                · exact Or.inl ⟨own, rfl, by rw [readOwn]; rfl⟩
                · exact Or.inr taken
              · rw [blank] at readOn
                have nothing := List.suffix_nil.mp (readHexDigits_suffix readOn)
                exact Or.inr (nothing ▸ List.nil_suffix)
          case isFalse => cases readEq

/-- What is read up to a closing brace is the same where it is found before the closing. -/
theorem braced_append_closing {rest remaining : List Char} {last : Char}
    (ends : (readWhile extended (· != '\x7d') false (rest ++ closing)).2 = last :: remaining) :
    (∃ own, remaining = own ++ closing ∧
        (readWhile extended (· != '\x7d') false rest).2 = last :: own ∧
        (readWhile extended (· != '\x7d') false (rest ++ closing)).1 =
          (readWhile extended (· != '\x7d') false rest).1) ∨
      remaining <:+ ['$'] := by
  have stops := not_wanted_of_readWhile ends
  rcases readWhile_append_closing extended (· != '\x7d') false rest with alike | taken
  · rw [alike] at ends ⊢
    cases own_eq : (readWhile extended (· != '\x7d') false rest).2 with
    | nil =>
        rw [own_eq] at ends
        cases ends
        cases stops
    | cons first own =>
        rw [own_eq] at ends
        cases ends
        exact Or.inl ⟨own, rfl, rfl, rfl⟩
  · rw [ends] at taken
    exact Or.inr ((List.suffix_cons _ _).trans taken)

theorem readsAlike_readHex {letter : Char} : ReadsAlike (readHex extended letter) text := by
  intro literal left readEq
  rw [readHex] at readEq ⊢
  rcases skip_append_closing extended text with alike | blank
  · rw [alike] at readEq
    generalize skip extended text = behind at readEq ⊢
    split at readEq
    case h_1 rest equal =>
        rcases exists_of_append_closing ['\x7b'] equal (by decide) with
          ⟨rest, rfl, rfl⟩
        simp only [List.singleton_append] at readEq ⊢
        split at readEq
        case h_1 => cases readEq
        case h_2 last remaining ends =>
            rcases Outcome.bind_eq_ok_iff.mp readEq with ⟨c, c_eq, equal⟩
            cases equal
            rcases braced_append_closing ends with ⟨own, rfl, own_eq, digits_eq⟩ | taken
            · rw [own_eq, ← digits_eq]
              simp only
              rw [c_eq]
              rcases skip_append_closing extended own with alike | blank
              · exact Or.inl ⟨skip extended own, alike, rfl⟩
              · exact Or.inr (blank ▸ List.nil_suffix)
            · exact Or.inr ((skip_suffix extended remaining).trans taken)
    case h_2 other =>
        rcases Outcome.bind_eq_ok_iff.mp readEq with ⟨⟨digits, remaining⟩, readDigits, readEq⟩
        rcases Outcome.bind_eq_ok_iff.mp readEq with ⟨c, c_eq, equal⟩
        cases equal
        rcases readsAlike_readHexDigits digits left readDigits with ⟨own, rfl, readOwn⟩ | taken
        · refine Or.inl ⟨own, rfl, ?_⟩
          split
          case h_1 rest => exact absurd rfl (other (rest ++ closing))
          case h_2 =>
              exact Outcome.bind_eq_ok_iff.mpr
                ⟨(digits, own), readOwn, Outcome.bind_eq_ok_iff.mpr ⟨c, c_eq, rfl⟩⟩
        · exact Or.inr taken
  · rw [blank] at readEq
    rcases Outcome.bind_eq_ok_iff.mp readEq with ⟨⟨digits, remaining⟩, readDigits, readEq⟩
    rcases Outcome.bind_eq_ok_iff.mp readEq with ⟨c, -, equal⟩
    cases equal
    have nothing := List.suffix_nil.mp (readHexDigits_suffix readDigits)
    exact Or.inr (nothing ▸ List.nil_suffix)

theorem readsAlike_readProperty : ReadsAlike (readProperty extended) text := by
  intro query left readEq
  rw [readProperty] at readEq ⊢
  rcases skip_append_closing extended text with alike | blank
  · rw [alike] at readEq
    generalize skip extended text = behind at readEq ⊢
    cases behind with
    | nil =>
        -- the parenthesis is the letter of the property
        cases readEq
        exact Or.inr (skip_suffix extended ['$'])
    | cons c rest =>
        rw [List.cons_append] at readEq
        split at readEq
        case h_1 impossible => cases impossible
        case h_2 equal =>
            cases equal
            simp only at readEq ⊢
            split at readEq
            case h_1 => cases readEq
            case h_2 last remaining ends =>
                cases readEq
                rcases braced_append_closing ends with ⟨own, rfl, own_eq, name_eq⟩ | taken
                · refine Or.inl ⟨own, rfl, ?_⟩
                  rw [own_eq, name_eq]
                · exact Or.inr taken
        case h_3 => cases readEq
        case h_4 noBrace noEscape equal =>
            cases equal
            cases readEq
            rcases skip_append_closing extended rest with alike | blank
            · refine Or.inl ⟨skip extended rest, alike, ?_⟩
              split
              case h_1 impossible => cases impossible
              case h_2 equal => 
                cases equal
                exact absurd rfl noBrace
              case h_3 equal => 
                cases equal
                exact absurd rfl noEscape
              case h_4 equal => 
                cases equal
                rfl
            · exact Or.inr (blank ▸ List.nil_suffix)
  · rw [blank] at readEq
    cases readEq

/--
A brace behind which there is nothing but the closing.  A boundary of words leaves it to be read as
a repetition, and none can be read from it.
-/
def IsStrayBrace (extended : Bool) (left : List Char) : Prop :=
  ∃ rest, left = '\x7b' :: (rest ++ closing) ∧ skip extended rest = []

/-- The special boundary of words with the given name, in front of the brace behind its name. -/
def boundaryNamed (name left : List Char) : Except Fault (Assertion × List Char) :=
  match left with
  | '\x7d' :: left =>
      match String.ofList name with
      | "start" => .ok (.wordStart, left)
      | "end" => .ok (.wordEnd, left)
      | "start-half" => .ok (.wordStartHalf, left)
      | "end-half" => .ok (.wordEndHalf, left)
      | _ => .error .unknownEscape
  | _ => .error .unexpectedEnd

theorem boundaryNamed_append_closing {name behind : List Char} {assertion : Assertion}
    (readEq : boundaryNamed name (behind ++ closing) = .ok (assertion, left)) :
    ∃ own, left = own ++ closing ∧ boundaryNamed name behind = .ok (assertion, own) := by
  rw [boundaryNamed.eq_def] at readEq
  split at readEq
  case h_1 rest equal =>
      rcases exists_of_append_closing ['\x7d'] equal (by decide) with ⟨rest, rfl, rfl⟩
      refine ⟨rest, ?_, ?_⟩
      · split at readEq
        all_goals cases readEq <;> rfl
      · rw [List.singleton_append, boundaryNamed]
        split at readEq
        all_goals cases readEq <;> rfl
  case h_2 => cases readEq

theorem readBoundary_append_closing {assertion : Assertion}
    (readEq : readBoundary extended (text ++ closing) = .ok (assertion, left)) :
    (∃ own, left = own ++ closing ∧ readBoundary extended text = .ok (assertion, own)) ∨
      IsStrayBrace extended left := by
  rw [readBoundary.eq_def] at readEq ⊢
  split at readEq
  case h_1 rest equal =>
      rcases exists_of_append_closing ['\x7b'] equal (by decide) with ⟨rest, rfl, rfl⟩
      simp only [List.singleton_append] at readEq ⊢
      split at readEq
      case h_1 => cases readEq
      case h_2 c inner behind =>
          rcases skip_append_closing extended rest with alike | blank
          · rw [alike] at behind
            cases own_eq : skip extended rest with
            | nil =>
                rw [own_eq] at behind
                cases behind
                cases readEq
                exact Or.inr ⟨rest, rfl, own_eq⟩
            | cons first own =>
                rw [own_eq] at behind
                cases behind
                left
                simp only
                split at readEq
                case isTrue isName =>
                    rw [if_pos isName]
                    have named : boundaryNamed
                        (readWhile extended isBoundaryNameChar false
                          ((c :: own) ++ closing)).1
                        (readWhile extended isBoundaryNameChar false
                          ((c :: own) ++ closing)).2 = .ok (assertion, left) := readEq
                    rcases readWhile_append_closing extended isBoundaryNameChar false
                      (c :: own) with alike | taken
                    · rw [alike] at named
                      exact boundaryNamed_append_closing named
                    · rcases List.suffix_cons_iff.mp taken with dollar | nothing
                      · rw [dollar] at named
                        cases named
                      · rw [List.suffix_nil.mp nothing] at named
                        cases named
                case isFalse other =>
                    rw [if_neg other]
                    cases readEq
                    exact ⟨_, rfl, rfl⟩
          · rw [blank] at behind
            cases behind
  case h_2 other =>
      cases readEq
      refine Or.inl ⟨text, rfl, ?_⟩
      split
      case h_1 rest => exact absurd rfl (other (rest ++ closing))
      case h_2 => rfl

/--
What is read of a part of an expression: that of the text alone, or the parenthesis is taken for a
part of it, or it is a boundary of words before a stray brace.
-/
def ReadsPart (extended : Bool) (read : List Char → Except Fault (Ast × List Char))
    (text : List Char) : Prop :=
  ∀ ast left, read (text ++ closing) = .ok (ast, left) →
    (∃ own, left = own ++ closing ∧ read text = .ok (ast, own)) ∨ left <:+ ['$'] ∨
      ((∃ assertion, ast = .assertion assertion) ∧ IsStrayBrace extended left)

theorem readsPart_readEscape : ReadsPart extended (readEscape extended) text := by
  intro ast left readEq
  cases text with
  | nil =>
      -- the parenthesis is the character that is escaped
      have escaped : readEscape extended closing = .ok (.literal ⟨')', false⟩, ['$']) := rfl
      rw [List.nil_append, escaped] at readEq
      cases readEq
      exact Or.inr (Or.inl List.suffix_rfl)
  | cons c rest =>
      rw [List.cons_append, readEscape.eq_def] at readEq
      rw [readEscape.eq_def]
      simp only at readEq ⊢
      split_ifs at readEq ⊢
      · rcases Outcome.bind_eq_ok_iff.mp readEq with ⟨⟨literal, remaining⟩, readHex, equal⟩
        cases equal
        rcases readsAlike_readHex literal _ readHex with ⟨own, rfl, readOwn⟩ | taken
        · exact Or.inl ⟨own, rfl, by rw [readOwn]; rfl⟩
        · exact Or.inr (Or.inl taken)
      · rcases Outcome.bind_eq_ok_iff.mp readEq with ⟨⟨query, remaining⟩, readQuery, equal⟩
        cases equal
        rcases readsAlike_readProperty query _ readQuery with ⟨own, rfl, readOwn⟩ | taken
        · exact Or.inl ⟨own, rfl, by rw [readOwn]; rfl⟩
        · exact Or.inr (Or.inl taken)
      · cases readEq
        exact Or.inl ⟨rest, rfl, rfl⟩
      · split at readEq
        case h_18 =>
            rcases Outcome.bind_eq_ok_iff.mp readEq with ⟨⟨look, remaining⟩, readLook, equal⟩
            cases equal
            rcases readBoundary_append_closing readLook with ⟨own, rfl, readOwn⟩ | stray
            · exact Or.inl ⟨own, rfl, by rw [readOwn]; rfl⟩
            · exact Or.inr (Or.inr ⟨⟨look, rfl⟩, stray⟩)
        case h_19 => cases readEq
        all_goals
          cases readEq
          exact Or.inl ⟨rest, rfl, rfl⟩

theorem readsPart_readAtom : ReadsPart extended (readAtom extended) text := by
  intro ast left readEq
  cases text with
  | nil =>
      cases readEq
      exact Or.inr (Or.inl List.suffix_rfl)
  | cons c rest =>
      rw [List.cons_append, readAtom.eq_def] at readEq
      rw [readAtom.eq_def]
      split at readEq
      case h_1 impossible => cases impossible
      case h_2 equal =>
          cases equal
          exact readsPart_readEscape ast left readEq
      case h_6 noEscape noDot noStart noEnd equal =>
          cases equal
          cases readEq
          refine Or.inl ⟨rest, rfl, ?_⟩
          split
          case h_1 impossible => cases impossible
          case h_6 equal =>
              cases equal
              rfl
          all_goals
            next equal =>
              cases equal
              contradiction
      all_goals
        next equal =>
          cases equal
          cases readEq
          exact Or.inl ⟨rest, rfl, rfl⟩

theorem readsPart_readClassAtom : ReadsPart extended (readClassAtom extended) text := by
  intro ast left readEq
  cases text with
  | nil =>
      cases readEq
      exact Or.inr (Or.inl List.suffix_rfl)
  | cons c rest =>
      rw [List.cons_append, readClassAtom.eq_def] at readEq
      rw [readClassAtom.eq_def]
      split at readEq
      case h_1 impossible => cases impossible
      case h_2 equal =>
          cases equal
          exact readsPart_readEscape ast left readEq
      case h_3 noEscape equal =>
          cases equal
          cases readEq
          refine Or.inl ⟨rest, rfl, ?_⟩
          split
          case h_1 impossible => cases impossible
          case h_2 equal =>
              cases equal
              contradiction
          case h_3 equal =>
              cases equal
              rfl

end PhraseRules.Regex
