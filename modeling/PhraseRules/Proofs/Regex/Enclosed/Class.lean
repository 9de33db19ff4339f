import PhraseRules.Proofs.Regex.Enclosed.Part
import PhraseRules.Proofs.Regex.Reading

/-!
# Reading classes that are enclosed

A class ends at its closing bracket.  As the closing that is put behind an expression has none, a
class is read there just as it is alone.
-/

namespace PhraseRules.Regex

variable {extended : Bool} {text left : List Char}

/-- A named class is found in front of the closing where it is found alone. -/
theorem readNamedClass?_append_closing (text : List Char) :
    readNamedClass? (text ++ closing) =
      (readNamedClass? text).map fun (item, left) => (item, left ++ closing) := by
  have named : ∀ (negated : Bool) (rest : List Char),
      readNamedClass?.named negated (rest ++ closing) =
        (readNamedClass?.named negated rest).map fun (item, left) => (item, left ++ closing) := by
    intro negated rest
    rw [readNamedClass?.named, readNamedClass?.named]
    cases ends : rest.dropWhile (· != ':') with
    | nil =>
        rw [dropWhile_append_closing_eq_nil (by decide) ends]
        rfl
    | cons c behind =>
        rcases span_append_closing ends with ⟨taken, remaining⟩
        rw [taken, remaining]
        cases behind with
        | nil =>
            split
            case h_1 equal => cases equal
            case h_2 =>
                split
                case h_1 equal => cases equal
                case h_2 => rfl
        | cons d left =>
            split
            case h_1 equal =>
                cases equal
                cases AsciiClass.ofName? (String.ofList (rest.takeWhile (· != ':'))) with
                | none => rfl
                | some kind => rfl
            case h_2 other =>
                split
                case h_1 equal =>
                    cases equal
                    exact absurd rfl (other _)
                case h_2 => rfl
  rw [readNamedClass?.eq_def, readNamedClass?.eq_def]
  split
  case h_1 rest equal =>
      rcases exists_of_append_closing [':', '^'] equal (by decide) with ⟨own, rfl, rfl⟩
      exact named true own
  case h_2 rest notNegated equal =>
      rcases exists_of_append_closing [':'] equal (by decide) with ⟨own, rfl, rfl⟩
      rw [named false own]
      split
      case h_1 equal =>
          cases equal
          exact absurd rfl (notNegated _)
      case h_2 equal =>
          cases equal
          rfl
      case h_3 other => exact absurd rfl (other own)
  case h_3 noColon =>
      split
      case h_1 rest => exact absurd rfl (noColon _)
      case h_2 rest _ => exact absurd rfl (noColon _)
      case h_3 => rfl

theorem readHyphens_append_closing (extended : Bool) (text : List Char) :
    readHyphens extended (text ++ closing) =
        ((readHyphens extended text).1, (readHyphens extended text).2 ++ closing) ∨
      (readHyphens extended (text ++ closing)).2 <:+ ['$'] := by
  rcases readWhile_append_closing extended (· == '-') false text with alike | taken
  · left
    rw [readHyphens, readHyphens, alike]
  · exact Or.inr taken

theorem readNegation_append_closing (extended : Bool) (text : List Char) :
    readNegation extended (text ++ closing) =
        ((readNegation extended text).1, (readNegation extended text).2 ++ closing) ∨
      (readNegation extended (text ++ closing)).2 = [] := by
  rw [readNegation, readNegation]
  rcases skip_append_closing extended text with alike | blank
  · rw [alike]
    generalize skip extended text = behind
    split
    case h_1 rest equal =>
        rcases exists_of_append_closing ['^'] equal (by decide) with ⟨own, rfl, rfl⟩
        rcases skip_append_closing extended own with alike | blank
        · left
          rw [alike]
          rfl
        · exact Or.inr blank
    case h_2 other =>
        left
        split
        case h_1 rest => exact absurd rfl (other _)
        case h_2 => rfl
  · right
    rw [blank]

/-- The opening of a class that reaches the closing leaves it to be read as a part of the class. -/
theorem openBehindHyphens_append_closing {negated isNegated : Bool}
    {hyphens opening : List ClassAst}
    (readEq : openBehindHyphens extended negated hyphens (text ++ closing) =
      .ok (isNegated, opening, left)) :
    (∃ own, left = own ++ closing ∧
        openBehindHyphens extended negated hyphens text = .ok (isNegated, opening, own)) ∨
      left <:+ closing := by
  cases text with
  | nil =>
      right
      exact openBehindHyphens_suffix readEq
  | cons c rest =>
      rw [List.cons_append, openBehindHyphens.eq_def] at readEq
      rw [openBehindHyphens.eq_def]
      split at readEq
      case h_1 impossible => cases impossible
      case h_2 equal =>
          cases equal
          simp only
          split at readEq
          case h_1 => cases readEq
          case h_2 nonempty =>
              cases readEq
              rcases skip_append_closing extended rest with alike | blank
              · cases own_eq : skip extended rest with
                | nil =>
                    right
                    rw [alike, own_eq]
                    exact List.suffix_rfl
                | cons first own =>
                    left
                    exact ⟨first :: own, by rw [alike, own_eq], rfl⟩
              · exact absurd blank nonempty
      case h_3 notEmpty notFirst =>
          cases readEq
          refine Or.inl ⟨c :: rest, rfl, ?_⟩
          split
          case h_1 impossible => cases impossible
          case h_2 equal =>
              cases equal
              exact absurd rfl (notFirst _ rfl)
          case h_3 => rfl

theorem readClassOpening_append_closing {negated : Bool} {opening : List ClassAst}
    (readEq : readClassOpening extended (text ++ closing) = .ok (negated, opening, left)) :
    (∃ own, left = own ++ closing ∧
        readClassOpening extended text = .ok (negated, opening, own)) ∨
      left <:+ closing := by
  rw [readClassOpening_eq] at readEq ⊢
  rcases readNegation_append_closing extended text with alike | blank
  · rw [alike] at readEq
    rcases readHyphens_append_closing extended (readNegation extended text).2 with alike | taken
    · rw [alike] at readEq
      exact openBehindHyphens_append_closing readEq
    · right
      exact (openBehindHyphens_suffix readEq).trans (taken.trans (List.suffix_cons _ _))
  · right
    have nothing := (openBehindHyphens_suffix readEq).trans (readHyphens_suffix extended _)
    rw [blank] at nothing
    exact List.suffix_nil.mp nothing ▸ List.nil_suffix

theorem closeItem_assertion_ne_ok {assertion : Assertion} {result : ClassAst × List Char} :
    closeItem (.assertion assertion) text ≠ .ok result := by
  intro readEq
  cases readEq

/-- An assertion can be neither an item of a class nor the end of a range. -/
theorem readRange_assertion_ne_ok {assertion : Assertion} {result : ClassAst × List Char} :
    readRange extended (.assertion assertion) text ≠ .ok result := by
  intro readEq
  rw [readRange.eq_def] at readEq
  split at readEq
  case h_1 => cases readEq
  case h_2 after =>
      rw [closeRange.eq_def] at readEq
      split at readEq
      case h_1 => cases readEq
      case h_2 => exact closeItem_assertion_ne_ok readEq
      case h_3 => exact closeItem_assertion_ne_ok readEq
      case h_4 =>
          rcases Outcome.bind_eq_ok_iff.mp readEq with ⟨last, -, readEq⟩
          cases readEq
  case h_3 => exact closeItem_assertion_ne_ok readEq

theorem closeRange_append_closing (text : List Char) {first : Ast} {behind : List Char}
    {item : ClassAst}
    (readEq : closeRange extended first (text ++ closing) (behind ++ closing) = .ok (item, left)) :
    (∃ own, left = own ++ closing ∧ closeRange extended first text behind = .ok (item, own)) ∨
      left <:+ closing := by
  cases behind with
  | nil =>
      rcases Outcome.bind_eq_ok_iff.mp readEq with ⟨⟨last, remaining⟩, readLast, readEq⟩
      rcases Outcome.bind_eq_ok_iff.mp readEq with ⟨lower, -, readEq⟩
      rcases Outcome.bind_eq_ok_iff.mp readEq with ⟨upper, -, readEq⟩
      split at readEq
      case isTrue =>
          cases readEq
          exact Or.inr ((readClassAtom_suffix readLast).trans (List.suffix_cons _ _))
      case isFalse => cases readEq
  | cons c rest =>
      rw [List.cons_append, closeRange.eq_def] at readEq
      rw [closeRange.eq_def]
      split at readEq
      case h_1 impossible => cases impossible
      case h_2 equal =>
          cases equal
          rcases closeItem_eq_ok_iff.mp readEq with ⟨item_eq, rfl⟩
          exact Or.inl ⟨text, rfl, closeItem_eq_ok_iff.mpr ⟨item_eq, rfl⟩⟩
      case h_3 equal =>
          cases equal
          rcases closeItem_eq_ok_iff.mp readEq with ⟨item_eq, rfl⟩
          exact Or.inl ⟨text, rfl, closeItem_eq_ok_iff.mpr ⟨item_eq, rfl⟩⟩
      case h_4 noText noEnd noHyphen =>
          rcases Outcome.bind_eq_ok_iff.mp readEq with ⟨⟨last, remaining⟩, readLast, readEq⟩
          rcases Outcome.bind_eq_ok_iff.mp readEq with ⟨lower, lower_eq, readEq⟩
          rcases Outcome.bind_eq_ok_iff.mp readEq with ⟨upper, upper_eq, readEq⟩
          split at readEq
          case isFalse => cases readEq
          case isTrue ordered =>
              cases readEq
              have readsAlike : ReadsPart extended (readClassAtom extended) (c :: rest) :=
                readsPart_readClassAtom
              rcases readsAlike last left readLast with
                ⟨own, rfl, readOwn⟩ | taken | ⟨⟨assertion, rfl⟩, -⟩
              · refine Or.inl ⟨own, rfl, ?_⟩
                split
                case h_1 impossible => cases impossible
                case h_2 equal =>
                    cases equal
                    exact absurd rfl (noEnd _)
                case h_3 equal =>
                    cases equal
                    exact absurd rfl (noHyphen _)
                case h_4 =>
                    rw [readOwn, Outcome.ok_bind]
                    simp only
                    rw [lower_eq, Outcome.ok_bind, upper_eq, Outcome.ok_bind, if_pos ordered]
              · exact Or.inr (taken.trans (List.suffix_cons _ _))
              · cases upper_eq

theorem readRange_append_closing {first : Ast} {item : ClassAst}
    (readEq : readRange extended first (text ++ closing) = .ok (item, left)) :
    (∃ own, left = own ++ closing ∧ readRange extended first text = .ok (item, own)) ∨
      left <:+ closing := by
  cases text with
  | nil => exact Or.inr (readRange_suffix readEq)
  | cons c rest =>
      rw [List.cons_append, readRange.eq_def] at readEq
      rw [readRange.eq_def]
      split at readEq
      case h_1 impossible => cases impossible
      case h_2 equal =>
          cases equal
          simp only
          rcases skip_append_closing extended rest with alike | blank
          · rw [alike] at readEq
            exact closeRange_append_closing ('-' :: rest) readEq
          · rw [blank] at readEq
            cases readEq
      case h_3 noText noHyphen =>
          rcases closeItem_eq_ok_iff.mp readEq with ⟨item_eq, rfl⟩
          refine Or.inl ⟨c :: rest, rfl, ?_⟩
          split
          case h_1 impossible => cases impossible
          case h_2 equal =>
              cases equal
              exact absurd rfl (noHyphen _)
          case h_3 => exact closeItem_eq_ok_iff.mpr ⟨item_eq, rfl⟩

theorem readClassItem_append_closing {item : ClassAst}
    (readEq : readClassItem extended (text ++ closing) = .ok (item, left)) :
    (∃ own, left = own ++ closing ∧ readClassItem extended text = .ok (item, own)) ∨
      left <:+ closing := by
  rw [readClassItem_eq] at readEq ⊢
  rcases Outcome.bind_eq_ok_iff.mp readEq with ⟨⟨first, remaining⟩, readFirst, readEq⟩
  rcases readsPart_readClassAtom first remaining readFirst with
    ⟨own, rfl, readOwn⟩ | taken | ⟨⟨assertion, rfl⟩, -⟩
  · rw [readOwn, Outcome.ok_bind]
    rcases skip_append_closing extended own with alike | blank
    · simp only at readEq
      rw [alike] at readEq
      exact readRange_append_closing readEq
    · simp only at readEq
      rw [blank] at readEq
      cases readEq
  · right
    exact (readRange_suffix readEq).trans <|
      (skip_suffix extended remaining).trans (taken.trans (List.suffix_cons _ _))
  · exact absurd readEq readRange_assertion_ne_ok

/-- The step with more text behind it. -/
def ClassStep.append (after : List Char) : ClassStep → ClassStep
  | .close rest => .close (rest ++ after)
  | .operate operation rest => .operate operation (rest ++ after)
  | .add item rest => .add item (rest ++ after)
  | .nest negated opening rest => .nest negated opening (rest ++ after)

/-- A step in the body of a class that reaches the closing leaves less than the closing. -/
theorem readClassStep_append_closing {step : ClassStep}
    (readEq : readClassStep extended (text ++ closing) = .ok step) :
    (∃ own, step = own.append closing ∧ readClassStep extended text = .ok own) ∨
      (step.rest <:+ closing ∧ ∀ rest, step ≠ .close rest) := by
  rw [readClassStep.eq_def] at readEq
  split at readEq
  case h_1 => cases readEq
  case h_2 rest equal =>
      rcases exists_of_append_closing [']'] equal (by decide) with ⟨own, rfl, rfl⟩
      cases readEq
      exact Or.inl ⟨_, rfl, rfl⟩
  case h_3 rest equal =>
      rcases exists_of_append_closing ['&', '&'] equal (by decide) with ⟨own, rfl, rfl⟩
      cases readEq
      exact Or.inl ⟨_, rfl, rfl⟩
  case h_4 rest equal =>
      rcases exists_of_append_closing ['-', '-'] equal (by decide) with ⟨own, rfl, rfl⟩
      cases readEq
      exact Or.inl ⟨_, rfl, rfl⟩
  case h_5 rest equal =>
      rcases exists_of_append_closing ['~', '~'] equal (by decide) with ⟨own, rfl, rfl⟩
      cases readEq
      exact Or.inl ⟨_, rfl, rfl⟩
  case h_6 rest equal =>
      rcases exists_of_append_closing ['['] equal (by decide) with ⟨own, rfl, rfl⟩
      rw [readNamedClass?_append_closing] at readEq
      rw [List.singleton_append, readClassStep]
      cases named : readNamedClass? own with
      | some found =>
          rw [named] at readEq
          cases readEq
          exact Or.inl ⟨_, rfl, rfl⟩
      | none =>
          rw [named] at readEq
          rcases Outcome.bind_eq_ok_iff.mp readEq with ⟨⟨negated, opening, inner⟩, opens, equal⟩
          cases equal
          rcases readClassOpening_append_closing opens with ⟨remaining, rfl, opensOwn⟩ | taken
          · exact Or.inl ⟨.nest negated opening remaining, rfl, by rw [opensOwn]; rfl⟩
          · exact Or.inr ⟨taken, fun _ impossible => by cases impossible⟩
  case h_7 noText noEnd noIntersection noDifference noSymmetricDifference noClass =>
      rcases Outcome.bind_eq_ok_iff.mp readEq with ⟨⟨item, remaining⟩, readItem, equal⟩
      cases equal
      rcases readClassItem_append_closing readItem with ⟨own, rfl, readOwn⟩ | taken
      · refine Or.inl ⟨.add item own, rfl, ?_⟩
        rw [readClassStep, readOwn]
        · rfl
        · rintro rfl
          cases readOwn
        · exact fun rest equal => noEnd _ (congrArg (· ++ closing) equal)
        · exact fun rest equal => noIntersection _ (congrArg (· ++ closing) equal)
        · exact fun rest equal => noDifference _ (congrArg (· ++ closing) equal)
        · exact fun rest equal => noSymmetricDifference _ (congrArg (· ++ closing) equal)
        · exact fun rest equal => noClass _ (congrArg (· ++ closing) equal)
      · exact Or.inr ⟨taken, fun _ impossible => by cases impossible⟩

theorem classStep_append_closing {step : ClassStep}
    (readEq : readClassStep extended (skip extended (text ++ closing)) = .ok step) :
    (∃ own, step = own.append closing ∧
        readClassStep extended (skip extended text) = .ok own) ∨
      (step.rest <:+ closing ∧ ∀ rest, step ≠ .close rest) := by
  rcases skip_append_closing extended text with alike | blank
  · rw [alike] at readEq
    exact readClassStep_append_closing readEq
  · rw [blank] at readEq
    cases readEq

theorem mem_bracket_of_readClassStep {rest : List Char}
    (readEq : readClassStep extended text = .ok (.close rest)) : ']' ∈ text := by
  rw [readClassStep.eq_def] at readEq
  split at readEq
  case h_2 => exact List.mem_cons_self
  case h_6 =>
      split at readEq
      case h_1 => cases readEq
      case h_2 =>
          rcases Outcome.bind_eq_ok_iff.mp readEq with ⟨opening, -, equal⟩
          cases equal
  case h_7 =>
      rcases Outcome.bind_eq_ok_iff.mp readEq with ⟨item, -, equal⟩
      cases equal
  all_goals cases readEq

/-- The body of a class has a closing bracket. -/
theorem ReadsClass.mem_bracket {pending : Option (ClassOperation × ClassAst)}
    {items : List ClassAst} {body : ClassAst}
    (reads : ReadsClass extended pending items text body left) : ']' ∈ text := by
  induction reads with
  | @close _ _ text _ step =>
      exact (skip_suffix extended text).subset (mem_bracket_of_readClassStep step)
  | operate step onward induction => exact (rest_suffix_of_readClassStep step).subset induction
  | add step onward induction => exact (rest_suffix_of_readClassStep step).subset induction
  | nest step inside onward inductionInside induction =>
      exact (rest_suffix_of_readClassStep step).subset inductionInside

theorem ReadsClass.not_suffix_closing {pending : Option (ClassOperation × ClassAst)}
    {items : List ClassAst} {body : ClassAst}
    (reads : ReadsClass extended pending items text body left) : ¬text <:+ closing := by
  intro within
  have member := within.subset reads.mem_bracket
  cases member with
  | tail _ member =>
      cases member with
      | tail _ member => cases member

/-- The body of a class is read to its bracket, and so in front of the closing. -/
theorem ReadsClass.of_append_closing {pending : Option (ClassOperation × ClassAst)}
    {items : List ClassAst} {body : ClassAst}
    (reads : ReadsClass extended pending items (text ++ closing) body left) :
    ∃ own, left = own ++ closing ∧ ReadsClass extended pending items text body own := by
  generalize enclosed_eq : text ++ closing = enclosed at reads
  induction reads generalizing text with
  | close step =>
      rcases enclosed_eq with rfl
      rcases classStep_append_closing step with ⟨own, equal, ownStep⟩ | ⟨-, other⟩
      · cases own with
        | close rest =>
            cases equal
            exact ⟨rest, rfl, .close ownStep⟩
        | _ => cases equal
      · exact absurd rfl (other _)
  | operate step onward induction =>
      rcases enclosed_eq with rfl
      rcases classStep_append_closing step with ⟨own, equal, ownStep⟩ | ⟨within, -⟩
      · cases own with
        | operate operation rest =>
            cases equal
            rcases induction rfl with ⟨remaining, rfl, readsOn⟩
            exact ⟨remaining, rfl, .operate ownStep readsOn⟩
        | _ => cases equal
      · exact absurd within onward.not_suffix_closing
  | add step onward induction =>
      rcases enclosed_eq with rfl
      rcases classStep_append_closing step with ⟨own, equal, ownStep⟩ | ⟨within, -⟩
      · cases own with
        | add item rest =>
            cases equal
            rcases induction rfl with ⟨remaining, rfl, readsOn⟩
            exact ⟨remaining, rfl, .add ownStep readsOn⟩
        | _ => cases equal
      · exact absurd within onward.not_suffix_closing
  | nest step inside onward inductionInside induction =>
      rcases enclosed_eq with rfl
      rcases classStep_append_closing step with ⟨own, equal, ownStep⟩ | ⟨within, -⟩
      · cases own with
        | nest negated opening rest =>
            cases equal
            rcases inductionInside rfl with ⟨between, rfl, readsInside⟩
            rcases induction rfl with ⟨remaining, rfl, readsOn⟩
            exact ⟨remaining, rfl, .nest ownStep readsInside readsOn⟩
        | _ => cases equal
      · exact absurd within inside.not_suffix_closing

theorem readClass_append_closing {ast : Ast}
    (readEq : readClass extended (text ++ closing) = .ok (ast, left)) :
    ∃ own, left = own ++ closing ∧ readClass extended text = .ok (ast, own) := by
  rcases readClass_eq_ok_iff.mp readEq with ⟨negated, opening, inner, body, opens, reads, rfl⟩
  rcases readClassOpening_append_closing opens with ⟨own, rfl, opensOwn⟩ | within
  · rcases reads.of_append_closing with ⟨remaining, rfl, readsOwn⟩
    exact ⟨remaining, rfl,
      readClass_eq_ok_iff.mpr ⟨negated, opening, own, body, opensOwn, readsOwn, rfl⟩⟩
  · exact absurd within reads.not_suffix_closing

end PhraseRules.Regex
