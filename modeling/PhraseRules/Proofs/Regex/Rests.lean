import PhraseRules.Proofs.Outcome
import PhraseRules.Regex.Parser

/-!
# What readers leave

Whatever part of a regular expression is read, what is left to read is the end of the text.
-/

namespace PhraseRules.Regex

open PhraseRules.Unicode

variable {extended : Bool} {text left : List Char}

/-! ## Blanks, counts and names -/

theorem dropBlanks_suffix (inComment : Bool) (text : List Char) :
    dropBlanks inComment text <:+ text := by
  induction text generalizing inComment with
  | nil => exact List.suffix_rfl
  | cons c rest induction =>
      have behind : ∀ inComment, dropBlanks inComment rest <:+ c :: rest := fun inComment =>
        (induction inComment).trans (List.suffix_cons c rest)
      rw [dropBlanks]
      split_ifs
      · exact behind _
      · exact behind _
      · exact behind _
      · exact List.suffix_rfl

theorem skip_suffix (extended : Bool) (text : List Char) : skip extended text <:+ text := by
  rw [skip]
  split
  case isTrue => exact dropBlanks_suffix false text
  case isFalse => exact List.suffix_rfl

theorem readWhile_suffix (extended : Bool) (wanted : Char → Bool) (inComment : Bool)
    (text : List Char) : (readWhile extended wanted inComment text).2 <:+ text := by
  induction text generalizing inComment with
  | nil => exact List.suffix_rfl
  | cons c rest induction =>
      have behind : ∀ inComment, (readWhile extended wanted inComment rest).2 <:+ c :: rest :=
        fun inComment => (induction inComment).trans (List.suffix_cons c rest)
      rw [readWhile]
      split_ifs
      · exact behind _
      · exact behind _
      · exact behind _
      · exact behind _
      · exact List.suffix_rfl

theorem readGreed_suffix (text : List Char) : (readGreed text).2 <:+ text := by
  rw [readGreed.eq_def]
  split
  · exact List.suffix_cons _ _
  · exact List.suffix_rfl

theorem readCount_suffix {count : Nat} (readEq : readCount extended text = .ok (count, left)) :
    left <:+ text := by
  simp only [readCount] at readEq
  split at readEq
  case isTrue => cases readEq
  case isFalse =>
      cases readEq
      exact (List.dropWhile_suffix _).trans <|
        (readWhile_suffix extended _ _ _).trans (List.dropWhile_suffix _)

theorem readName_suffix {name : String} (readEq : readName text = .ok (name, left)) :
    left <:+ text := by
  have suffix := List.dropWhile_suffix (l := text) (· != '>')
  simp only [readName] at readEq
  split at readEq
  case h_1 behind =>
      split at readEq
      case isTrue =>
          cases readEq
          rw [behind] at suffix
          exact (List.suffix_cons _ _).trans suffix
      case isFalse => cases readEq
  case h_2 => cases readEq

/-! ## Escapes -/

theorem readHexDigits_suffix {count : Nat} {digits : List Char}
    (readEq : readHexDigits extended count text = .ok (digits, left)) : left <:+ text := by
  induction count generalizing text digits with
  | zero =>
      cases readEq
      exact List.suffix_rfl
  | succ count induction =>
      cases text with
      | nil => cases readEq
      | cons c rest =>
          rw [readHexDigits] at readEq
          split at readEq
          case isTrue =>
              rcases Outcome.bind_eq_ok_iff.mp readEq with ⟨⟨others, remaining⟩, readOn, equal⟩
              cases equal
              exact (induction readOn).trans <|
                (skip_suffix extended rest).trans (List.suffix_cons c rest)
          case isFalse => cases readEq

theorem readHex_suffix {letter : Char} {literal : Literal}
    (readEq : readHex extended letter text = .ok (literal, left)) : left <:+ text := by
  have suffix := skip_suffix extended text
  rw [readHex] at readEq
  split at readEq
  case h_1 rest behind =>
      have inner := readWhile_suffix extended (· != '\x7d') false rest
      simp only at readEq
      split at readEq
      case h_1 => cases readEq
      case h_2 last remaining remaining_eq =>
          rcases Outcome.bind_eq_ok_iff.mp readEq with ⟨c, -, equal⟩
          cases equal
          rw [behind] at suffix
          rw [remaining_eq] at inner
          exact (skip_suffix extended remaining).trans <| (List.suffix_cons last _).trans <|
            inner.trans <| (List.suffix_cons _ rest).trans suffix
  case h_2 =>
      rcases Outcome.bind_eq_ok_iff.mp readEq with ⟨⟨digits, remaining⟩, readDigits, read⟩
      rcases Outcome.bind_eq_ok_iff.mp read with ⟨c, -, equal⟩
      cases equal
      exact (readHexDigits_suffix readDigits).trans suffix

theorem readProperty_suffix {query : PropertyQuery}
    (readEq : readProperty extended text = .ok (query, left)) : left <:+ text := by
  have suffix := skip_suffix extended text
  rw [readProperty] at readEq
  split at readEq
  case h_1 => cases readEq
  case h_2 rest behind =>
      have inner := readWhile_suffix extended (· != '\x7d') false rest
      simp only at readEq
      split at readEq
      case h_1 => cases readEq
      case h_2 last remaining remaining_eq =>
          cases readEq
          rw [behind] at suffix
          rw [remaining_eq] at inner
          exact (List.suffix_cons last _).trans <|
            inner.trans <| (List.suffix_cons _ rest).trans suffix
  case h_3 => cases readEq
  case h_4 c rest _ _ behind =>
      cases readEq
      rw [behind] at suffix
      exact (skip_suffix extended rest).trans <| (List.suffix_cons c rest).trans suffix

theorem readBoundary_suffix {assertion : Assertion}
    (readEq : readBoundary extended text = .ok (assertion, left)) : left <:+ text := by
  rw [readBoundary.eq_def] at readEq
  split at readEq
  case h_1 rest =>
      have suffix := (skip_suffix extended rest).trans (List.suffix_cons '\x7b' rest)
      split at readEq
      case h_1 => cases readEq
      case h_2 c inner behind =>
          rw [behind] at suffix
          split at readEq
          case isTrue =>
              have name := readWhile_suffix extended isBoundaryNameChar false (c :: inner)
              simp only at readEq
              split at readEq
              case h_1 remaining remaining_eq =>
                  rw [remaining_eq] at name
                  have closed : remaining <:+ '\x7b' :: rest :=
                    (List.suffix_cons _ remaining).trans (name.trans suffix)
                  split at readEq
                  all_goals cases readEq <;> exact closed
              case h_2 => cases readEq
          case isFalse =>
              cases readEq
              exact List.suffix_rfl
  case h_2 =>
      cases readEq
      exact List.suffix_rfl

theorem readEscape_suffix {ast : Ast} (readEq : readEscape extended text = .ok (ast, left)) :
    left <:+ text := by
  cases text with
  | nil => cases readEq
  | cons c rest =>
      have rest_suffix := List.suffix_cons c rest
      rw [readEscape.eq_def] at readEq
      simp only at readEq
      split_ifs at readEq
      · rcases Outcome.bind_eq_ok_iff.mp readEq with ⟨⟨literal, remaining⟩, readHex, equal⟩
        cases equal
        exact (readHex_suffix readHex).trans rest_suffix
      · rcases Outcome.bind_eq_ok_iff.mp readEq with ⟨⟨query, remaining⟩, readQuery, equal⟩
        cases equal
        exact (readProperty_suffix readQuery).trans rest_suffix
      · cases readEq
        exact rest_suffix
      · split at readEq
        case h_18 =>
            rcases Outcome.bind_eq_ok_iff.mp readEq with ⟨⟨look, remaining⟩, readLook, equal⟩
            cases equal
            exact (readBoundary_suffix readLook).trans rest_suffix
        case h_19 => cases readEq
        all_goals
          cases readEq
          exact rest_suffix

theorem readAtom_suffix {c : Char} {rest : List Char} {ast : Ast}
    (readEq : readAtom extended (c :: rest) = .ok (ast, left)) : left <:+ rest := by
  rw [readAtom.eq_def] at readEq
  split at readEq
  case h_1 impossible => cases impossible
  case h_2 equal =>
      cases equal
      exact readEscape_suffix readEq
  all_goals
    next equal =>
      cases equal
      cases readEq
      exact List.suffix_rfl

/-! ## Classes -/

theorem readNamedClass?_suffix {item : ClassAst}
    (readEq : readNamedClass? text = some (item, left)) : left <:+ text := by
  have named : ∀ {negated : Bool} {rest : List Char},
      readNamedClass?.named negated rest = some (item, left) → left <:+ rest := by
    intro negated rest readEq
    have suffix := List.dropWhile_suffix (l := rest) (· != ':')
    rw [readNamedClass?.named] at readEq
    split at readEq
    case h_1 remaining remaining_eq =>
        rcases Option.bind_eq_some_iff.mp readEq with ⟨kind, -, equal⟩
        cases equal
        rw [remaining_eq] at suffix
        exact (List.suffix_cons _ _).trans ((List.suffix_cons _ _).trans suffix)
    case h_2 => cases readEq
  rw [readNamedClass?.eq_def] at readEq
  split at readEq
  case h_1 rest =>
      exact (named readEq).trans ((List.suffix_cons _ _).trans (List.suffix_cons _ _))
  case h_2 rest _ => exact (named readEq).trans (List.suffix_cons _ _)
  case h_3 => cases readEq

theorem readHyphens_suffix (extended : Bool) (text : List Char) :
    (readHyphens extended text).2 <:+ text :=
  readWhile_suffix extended (· == '-') false text

/-- Whether a class is negated, and the text behind the sign that says so. -/
def readNegation (extended : Bool) (text : List Char) : Bool × List Char :=
  match skip extended text with
  | '^' :: rest => (true, skip extended rest)
  | rest => (false, rest)

/-- The opening of a class, when its hyphens are read. -/
def openBehindHyphens (extended negated : Bool) (hyphens : List ClassAst) (rest : List Char) :
    Except Fault (Bool × List ClassAst × List Char) :=
  match hyphens, rest with
  | _, [] => .error .unclosedClass
  | [], ']' :: rest =>
      match skip extended rest with
      | [] => .error .unclosedClass
      | rest => .ok (negated, [.literal ⟨']', false⟩], rest)
  | hyphens, rest => .ok (negated, hyphens, rest)

theorem readClassOpening_eq (extended : Bool) (text : List Char) :
    readClassOpening extended text =
      openBehindHyphens extended (readNegation extended text).1
        (readHyphens extended (readNegation extended text).2).1
        (readHyphens extended (readNegation extended text).2).2 :=
  rfl

theorem readNegation_suffix (extended : Bool) (text : List Char) :
    (readNegation extended text).2 <:+ text := by
  have suffix := skip_suffix extended text
  rw [readNegation]
  split
  case h_1 rest behind =>
      rw [behind] at suffix
      exact (skip_suffix extended rest).trans ((List.suffix_cons _ _).trans suffix)
  case h_2 => exact suffix

theorem openBehindHyphens_suffix {negated isNegated : Bool} {hyphens opening : List ClassAst}
    (readEq : openBehindHyphens extended negated hyphens text = .ok (isNegated, opening, left)) :
    left <:+ text := by
  rw [openBehindHyphens.eq_def] at readEq
  split at readEq
  case h_1 => cases readEq
  case h_2 rest =>
      have suffix := (skip_suffix extended rest).trans (List.suffix_cons ']' rest)
      split at readEq
      case h_1 => cases readEq
      case h_2 =>
          cases readEq
          exact suffix
  case h_3 =>
      cases readEq
      exact List.suffix_rfl

theorem readClassOpening_suffix {negated : Bool} {opening : List ClassAst}
    (readEq : readClassOpening extended text = .ok (negated, opening, left)) : left <:+ text := by
  rw [readClassOpening_eq] at readEq
  exact (openBehindHyphens_suffix readEq).trans <|
    (readHyphens_suffix extended _).trans (readNegation_suffix extended text)

theorem readClassAtom_suffix {c : Char} {rest : List Char} {ast : Ast}
    (readEq : readClassAtom extended (c :: rest) = .ok (ast, left)) : left <:+ rest := by
  rw [readClassAtom.eq_def] at readEq
  split at readEq
  case h_1 impossible => cases impossible
  case h_2 equal =>
      cases equal
      exact readEscape_suffix readEq
  case h_3 equal =>
      cases equal
      cases readEq
      exact List.suffix_rfl

/-- The item that an atom makes alone, in front of the text. -/
def closeItem (first : Ast) (text : List Char) : Except Fault (ClassAst × List Char) := do
  .ok (← classItem first, text)

/--
The range from an atom to what stands behind a hyphen.  A hyphen that ends the class or begins a
difference is left for it, in the text.
-/
def closeRange (extended : Bool) (first : Ast) (text behind : List Char) :
    Except Fault (ClassAst × List Char) :=
  match behind with
  | [] => .error .unclosedClass
  | ']' :: _ | '-' :: _ => closeItem first text
  | behind => do
      let (last, left) ← readClassAtom extended behind
      let first ← rangeEnd first
      let last ← rangeEnd last
      if first.char ≤ last.char then .ok (.range first last, left)
      else .error .badClassRange

/-- What a class has behind an atom: the rest of a range, or nothing more. -/
def readRange (extended : Bool) (first : Ast) (text : List Char) :
    Except Fault (ClassAst × List Char) :=
  match text with
  | [] => .error .unclosedClass
  | '-' :: after => closeRange extended first text (skip extended after)
  | _ => closeItem first text

theorem readClassItem_eq (extended : Bool) (text : List Char) :
    readClassItem extended text =
      readClassAtom extended text >>= fun (first, rest) =>
        readRange extended first (skip extended rest) :=
  rfl

theorem closeItem_eq_ok_iff {first : Ast} {item : ClassAst} :
    closeItem first text = .ok (item, left) ↔ classItem first = .ok item ∧ left = text := by
  rw [closeItem, Outcome.bind_eq_ok_iff]
  constructor
  · rintro ⟨_, item_eq, equal⟩
    cases equal
    exact ⟨item_eq, rfl⟩
  · rintro ⟨item_eq, rfl⟩
    exact ⟨item, item_eq, rfl⟩

theorem closeRange_suffix {first : Ast} {behind : List Char} {item : ClassAst}
    (readEq : closeRange extended first text behind = .ok (item, left)) :
    left = text ∨ left <:+ behind := by
  rw [closeRange.eq_def] at readEq
  split at readEq
  case h_1 => cases readEq
  case h_2 => exact Or.inl (closeItem_eq_ok_iff.mp readEq).2
  case h_3 => exact Or.inl (closeItem_eq_ok_iff.mp readEq).2
  case h_4 nonempty _ _ =>
      rcases Outcome.bind_eq_ok_iff.mp readEq with ⟨⟨last, remaining⟩, readLast, readEq⟩
      rcases Outcome.bind_eq_ok_iff.mp readEq with ⟨lower, -, readEq⟩
      rcases Outcome.bind_eq_ok_iff.mp readEq with ⟨upper, -, readEq⟩
      split at readEq
      case isTrue =>
          cases readEq
          cases behind with
          | nil => exact absurd rfl nonempty
          | cons c rest =>
              exact Or.inr ((readClassAtom_suffix readLast).trans (List.suffix_cons c rest))
      case isFalse => cases readEq

theorem readRange_suffix {first : Ast} {item : ClassAst}
    (readEq : readRange extended first text = .ok (item, left)) : left <:+ text := by
  rw [readRange.eq_def] at readEq
  split at readEq
  case h_1 => cases readEq
  case h_2 after =>
      rcases closeRange_suffix readEq with rfl | within
      · exact List.suffix_rfl
      · exact within.trans ((skip_suffix extended after).trans (List.suffix_cons '-' after))
  case h_3 => exact (closeItem_eq_ok_iff.mp readEq).2 ▸ List.suffix_rfl

theorem readClassItem_suffix {c : Char} {rest : List Char} {item : ClassAst}
    (readEq : readClassItem extended (c :: rest) = .ok (item, left)) : left <:+ rest := by
  rw [readClassItem_eq] at readEq
  rcases Outcome.bind_eq_ok_iff.mp readEq with ⟨⟨first, remaining⟩, readFirst, readEq⟩
  exact (readRange_suffix readEq).trans <|
    (skip_suffix extended remaining).trans (readClassAtom_suffix readFirst)

/-! ## Groups and repetitions -/

theorem readFlags_suffix {negated dangling : Bool} {before settings : List FlagSetting}
    (readEq : readFlags negated dangling before text = .ok (settings, left)) : left <:+ text := by
  induction text generalizing negated dangling before with
  | nil => cases readEq
  | cons c rest induction =>
      rw [readFlags] at readEq
      split_ifs at readEq
      · cases readEq
        exact List.suffix_rfl
      · exact (induction readEq).trans (List.suffix_cons c rest)
      · split at readEq
        case h_1 => cases readEq
        case h_2 =>
            split at readEq
            case isTrue => cases readEq
            case isFalse => exact (induction readEq).trans (List.suffix_cons c rest)

/-- The text behind what opens a group. -/
def Opening.rest : Opening → List Char
  | .settings _ rest => rest
  | .group _ rest => rest

/-- What an opening parenthesis begins, from what is neither blank nor in a comment. -/
def openGroup (text : List Char) : Except Fault Opening :=
  match text with
  | '?' :: '=' :: _ | '?' :: '!' :: _ | '?' :: '<' :: '=' :: _ | '?' :: '<' :: '!' :: _ =>
      .error .unsupportedLookAround
  | '?' :: 'P' :: '<' :: rest | '?' :: '<' :: rest => do
      let (name, left) ← readName rest
      .ok (.group (.named name) left)
  | '?' :: rest => do
      let (settings, left) ← readFlags false false [] rest
      match left with
      | ':' :: left => .ok (.group (.uncaptured settings) left)
      | left =>
          if settings.isEmpty then .error .nothingToRepeat
          else .ok (.settings settings (left.drop 1))
  | rest => .ok (.group .numbered rest)

theorem readOpening_eq (extended : Bool) (text : List Char) :
    readOpening extended text = openGroup (skip extended text) :=
  rfl

theorem readOpening_suffix {opening : Opening} (readEq : readOpening extended text = .ok opening) :
    opening.rest <:+ text := by
  have suffix := skip_suffix extended text
  have named : ∀ {rest : List Char}, rest <:+ skip extended text →
      (readName rest >>= fun (name, left) => .ok (.group (.named name) left)) = .ok opening →
        opening.rest <:+ text := by
    intro rest within readEq
    rcases Outcome.bind_eq_ok_iff.mp readEq with ⟨⟨name, left⟩, readName, equal⟩
    cases equal
    exact (readName_suffix readName).trans (within.trans suffix)
  rw [readOpening_eq, openGroup.eq_def] at readEq
  split at readEq
  case h_5 behind =>
      refine named ?_ readEq
      rw [behind]
      exact ⟨['?', 'P', '<'], rfl⟩
  case h_6 behind =>
      refine named ?_ readEq
      rw [behind]
      exact ⟨['?', '<'], rfl⟩
  case h_7 rest _ _ _ _ _ _ behind =>
      rcases Outcome.bind_eq_ok_iff.mp readEq with ⟨⟨settings, remaining⟩, readFlags, readEq⟩
      have within : remaining <:+ text := by
        rw [behind] at suffix
        exact (readFlags_suffix readFlags).trans ((List.suffix_cons _ rest).trans suffix)
      simp only at readEq
      split at readEq
      case h_1 =>
          cases readEq
          exact (List.suffix_cons _ _).trans within
      case h_2 =>
          split at readEq
          case isTrue => cases readEq
          case isFalse =>
              cases readEq
              exact (List.drop_suffix 1 remaining).trans within
  case h_8 =>
      cases readEq
      exact suffix
  all_goals cases readEq

theorem readBounds_suffix {bounds : Bounds}
    (readEq : readBounds extended text = .ok (bounds, left)) : left <:+ text := by
  have suffix := skip_suffix extended text
  rw [readBounds] at readEq
  split at readEq
  case h_1 => cases readEq
  case h_2 =>
      rcases Outcome.bind_eq_ok_iff.mp readEq with ⟨⟨least, remaining⟩, readLeast, readEq⟩
      have within : remaining <:+ text := (readCount_suffix readLeast).trans suffix
      simp only at readEq
      split at readEq
      case h_1 =>
          cases readEq
          exact (List.suffix_cons _ _).trans within
      case h_2 rest =>
          have within := (skip_suffix extended rest).trans ((List.suffix_cons _ rest).trans within)
          split at readEq
          case h_1 behind =>
              cases readEq
              rw [behind] at within
              exact (List.suffix_cons _ _).trans within
          case h_2 => cases readEq
          case h_3 =>
              rcases Outcome.bind_eq_ok_iff.mp readEq with ⟨⟨most, remaining⟩, readMost, readEq⟩
              simp only at readEq
              split at readEq
              case h_1 =>
                  split at readEq
                  case isTrue =>
                      cases readEq
                      exact (List.suffix_cons _ _).trans ((readCount_suffix readMost).trans within)
                  case isFalse => cases readEq
              case h_2 => cases readEq
      case h_3 => cases readEq

end PhraseRules.Regex
