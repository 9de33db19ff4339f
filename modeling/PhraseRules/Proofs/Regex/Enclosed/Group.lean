import PhraseRules.Proofs.Regex.Enclosed.Class

/-!
# Reading groups that are enclosed

Between parentheses the inside of a group is read as it is alone.  Where it takes the closing behind
it for a part of itself, nothing is left that could close the group around it.
-/

namespace PhraseRules.Regex

open PhraseRules.Unicode

variable {extended : Bool} {text left : List Char}

/-! ## Openings and bounds -/

theorem readFlags_append_closing {negated dangling : Bool} {before settings : List FlagSetting}
    (readEq : readFlags negated dangling before (text ++ closing) = .ok (settings, left)) :
    (∃ own, left = own ++ closing ∧ own ≠ [] ∧
        readFlags negated dangling before text = .ok (settings, own)) ∨
      left = closing := by
  induction text generalizing negated dangling before with
  | nil =>
      right
      cases dangling with
      | false =>
          cases readEq
          rfl
      | true => cases readEq
  | cons c rest induction =>
      rw [List.cons_append, readFlags] at readEq
      rw [readFlags]
      split_ifs at readEq ⊢
      · cases readEq
        exact Or.inl ⟨c :: rest, rfl, List.cons_ne_nil _ _, rfl⟩
      · exact induction readEq
      · split at readEq
        case h_1 => cases readEq
        case h_2 =>
            split at readEq
            case isTrue => cases readEq
            case isFalse unset =>
                rw [if_neg unset]
                exact induction readEq

/-- The opening with more text behind it. -/
def Opening.append (after : List Char) : Opening → Opening
  | .settings flags rest => .settings flags (rest ++ after)
  | .group kind rest => .group kind (rest ++ after)

theorem openGroup_append_closing {opening : Opening}
    (readEq : openGroup (text ++ closing) = .ok opening) :
    (∃ own, opening = own.append closing ∧ openGroup text = .ok own) ∨
      opening.rest <:+ ['$'] := by
  rw [openGroup.eq_def] at readEq
  split at readEq
  case h_5 rest equal =>
      rcases exists_of_append_closing ['?', 'P', '<'] equal (by decide) with
        ⟨own, rfl, rfl⟩
      rcases Outcome.bind_eq_ok_iff.mp readEq with ⟨⟨name, remaining⟩, named, equal⟩
      cases equal
      rcases readName_append_closing named with ⟨remaining, rfl, namedOwn⟩
      exact Or.inl ⟨.group (.named name) remaining, rfl,
        Outcome.bind_eq_ok_iff.mpr ⟨(name, remaining), namedOwn, rfl⟩⟩
  case h_6 rest noBehind noNotBehind equal =>
      rcases exists_of_append_closing ['?', '<'] equal (by decide) with ⟨own, rfl, rfl⟩
      rcases Outcome.bind_eq_ok_iff.mp readEq with ⟨⟨name, remaining⟩, named, equal⟩
      cases equal
      rcases readName_append_closing named with ⟨remaining, rfl, namedOwn⟩
      refine Or.inl ⟨.group (.named name) remaining, rfl, ?_⟩
      change openGroup ('?' :: '<' :: own) = _
      rw [openGroup, namedOwn]
      · rfl
      · exact fun rest equal => noBehind _ (congrArg (· ++ closing) equal)
      · exact fun rest equal => noNotBehind _ (congrArg (· ++ closing) equal)
  case h_7 rest noAhead noNotAhead noBehind noNotBehind noNamed noName equal =>
      rcases exists_of_append_closing ['?'] equal (by decide) with ⟨own, rfl, rfl⟩
      rcases Outcome.bind_eq_ok_iff.mp readEq with ⟨⟨settings, remaining⟩, flags, readEq⟩
      have openOwn := openGroup.eq_7 own
        (fun tail equal => noAhead _ (congrArg (· ++ closing) equal))
        (fun tail equal => noNotAhead _ (congrArg (· ++ closing) equal))
        (fun tail equal => noBehind _ (congrArg (· ++ closing) equal))
        (fun tail equal => noNotBehind _ (congrArg (· ++ closing) equal))
        (fun rest equal => noNamed _ (congrArg (· ++ closing) equal))
        (fun rest equal => noName _ (congrArg (· ++ closing) equal))
      rcases readFlags_append_closing flags with ⟨behind, rfl, nonempty, flagsOwn⟩ | rfl
      · left
        rw [List.singleton_append, openOwn, flagsOwn, Outcome.ok_bind]
        rcases List.exists_cons_of_ne_nil nonempty with ⟨c, later, rfl⟩
        simp only [List.cons_append] at readEq ⊢
        split at readEq
        case h_1 equal =>
            cases equal
            cases readEq
            exact ⟨.group (.uncaptured settings) later, rfl, rfl⟩
        case h_2 noColon =>
            split at readEq
            case isTrue => cases readEq
            case isFalse nonemptySettings =>
                cases readEq
                refine ⟨.settings settings later, rfl, ?_⟩
                split
                case h_1 equal =>
                    cases equal
                    exact absurd rfl (noColon _)
                case h_2 => rw [if_neg nonemptySettings, List.drop_succ_cons, List.drop_zero]
      · right
        simp only at readEq
        split at readEq
        case h_1 equal => cases equal
        case h_2 =>
            split at readEq
            case isTrue => cases readEq
            case isFalse =>
                cases readEq
                exact List.suffix_rfl
  case h_8 rest noAhead noNotAhead noBehind noNotBehind noNamed noName noFlags =>
      cases readEq
      refine Or.inl ⟨.group .numbered text, rfl, ?_⟩
      rw [openGroup]
      · exact fun rest equal => noAhead _ (congrArg (· ++ closing) equal)
      · exact fun rest equal => noNotAhead _ (congrArg (· ++ closing) equal)
      · exact fun rest equal => noBehind _ (congrArg (· ++ closing) equal)
      · exact fun rest equal => noNotBehind _ (congrArg (· ++ closing) equal)
      · exact fun rest equal => noNamed _ (congrArg (· ++ closing) equal)
      · exact fun rest equal => noName _ (congrArg (· ++ closing) equal)
      · exact fun rest equal => noFlags _ (congrArg (· ++ closing) equal)
  all_goals cases readEq

theorem readOpening_append_closing {opening : Opening}
    (readEq : readOpening extended (text ++ closing) = .ok opening) :
    (∃ own, opening = own.append closing ∧ readOpening extended text = .ok own) ∨
      opening.rest <:+ ['$'] := by
  rw [readOpening_eq] at readEq ⊢
  rcases skip_append_closing extended text with alike | blank
  · rw [alike] at readEq
    exact openGroup_append_closing readEq
  · rw [blank] at readEq
    cases readEq
    exact Or.inr List.nil_suffix

/-- The bounds whose least count is read, from what stands behind a comma. -/
def boundsBehindComma (extended : Bool) (least : Nat) (text : List Char) :
    Except Fault (Bounds × List Char) :=
  match text with
  | '\x7d' :: left => .ok (⟨least, none⟩, left)
  | [] => .error .badRepetitionCount
  | rest => do
      let (most, left) ← readCount extended rest
      match left with
      | '\x7d' :: left =>
          if least ≤ most then .ok (⟨least, some most⟩, left)
          else .error .badRepetitionCount
      | _ => .error .badRepetitionCount

/-- The bounds in braces, from what is neither blank nor in a comment. -/
def boundsFrom (extended : Bool) (text : List Char) : Except Fault (Bounds × List Char) :=
  match text with
  | [] => .error .badRepetitionCount
  | text => do
      let (least, rest) ← readCount extended text
      match rest with
      | '\x7d' :: left => .ok (⟨least, some least⟩, left)
      | ',' :: rest => boundsBehindComma extended least (skip extended rest)
      | _ => .error .badRepetitionCount

theorem readBounds_eq (extended : Bool) (text : List Char) :
    readBounds extended text = boundsFrom extended (skip extended text) :=
  rfl

theorem readCount_closing (extended : Bool) :
    readCount extended closing = .error .badRepetitionCount := by
  cases extended with
  | false => decide +kernel
  | true => decide +kernel

theorem boundsBehindComma_append_closing {least : Nat} {bounds : Bounds}
    (readEq : boundsBehindComma extended least (text ++ closing) = .ok (bounds, left)) :
    ∃ own, left = own ++ closing ∧ boundsBehindComma extended least text = .ok (bounds, own) := by
  rw [boundsBehindComma.eq_def] at readEq
  split at readEq
  case h_1 rest equal =>
      rcases exists_of_append_closing ['\x7d'] equal (by decide) with ⟨own, rfl, rfl⟩
      cases readEq
      exact ⟨own, rfl, rfl⟩
  case h_2 => cases readEq
  case h_3 noEnd _ =>
      rcases Outcome.bind_eq_ok_iff.mp readEq with ⟨⟨most, remaining⟩, counted, readEq⟩
      have nonempty : text ≠ [] := by
        rintro rfl
        rw [List.nil_append, readCount_closing] at counted
        cases counted
      rcases readsAlike_readCount most remaining counted with ⟨own, rfl, countedOwn⟩ | taken
      · simp only at readEq
        split at readEq
        case h_1 rest equal =>
            rcases exists_of_append_closing ['\x7d'] equal (by decide) with
              ⟨own, rfl, rfl⟩
            split at readEq
            case isTrue ordered =>
                cases readEq
                refine ⟨own, rfl, ?_⟩
                rw [boundsBehindComma, countedOwn, Outcome.ok_bind]
                · exact if_pos ordered
                · exact fun rest equal => noEnd _ (congrArg (· ++ closing) equal)
                · exact nonempty
            case isFalse => cases readEq
        case h_2 => cases readEq
      · rcases List.suffix_cons_iff.mp taken with rfl | nothing
        · cases readEq
        · rw [List.suffix_nil.mp nothing] at readEq
          cases readEq

theorem readBounds_append_closing {bounds : Bounds}
    (readEq : readBounds extended (text ++ closing) = .ok (bounds, left)) :
    ∃ own, left = own ++ closing ∧ readBounds extended text = .ok (bounds, own) := by
  rw [readBounds_eq] at readEq ⊢
  rcases skip_append_closing extended text with alike | blank
  · rw [alike] at readEq
    generalize skip extended text = behind at readEq ⊢
    rw [boundsFrom.eq_def] at readEq
    split at readEq
    case h_1 => cases readEq
    case h_2 =>
        rcases Outcome.bind_eq_ok_iff.mp readEq with ⟨⟨least, remaining⟩, counted, readEq⟩
        have nonempty : behind ≠ [] := by
          rintro rfl
          rw [List.nil_append, readCount_closing] at counted
          cases counted
        rcases readsAlike_readCount least remaining counted with ⟨own, rfl, countedOwn⟩ | taken
        · simp only at readEq
          rw [boundsFrom, countedOwn, Outcome.ok_bind]
          · split at readEq
            case h_1 rest equal =>
                rcases exists_of_append_closing ['\x7d'] equal (by decide) with
                  ⟨own, rfl, rfl⟩
                cases readEq
                exact ⟨own, rfl, rfl⟩
            case h_2 rest equal =>
                rcases exists_of_append_closing [','] equal (by decide) with
                  ⟨own, rfl, rfl⟩
                rcases skip_append_closing extended own with alike | blank
                · rw [alike] at readEq
                  exact boundsBehindComma_append_closing readEq
                · rw [blank] at readEq
                  cases readEq
            case h_3 => cases readEq
          · exact nonempty
        · rcases List.suffix_cons_iff.mp taken with rfl | nothing
          · cases readEq
          · rw [List.suffix_nil.mp nothing] at readEq
            cases readEq
  · rw [blank] at readEq
    cases readEq

/-! ## Steps -/

/-- The step with more text behind it. -/
def Step.append (after : List Char) : Step → Step
  | .stop rest => .stop (rest ++ after)
  | .branch rest => .branch (rest ++ after)
  | .items parts rest => .items parts (rest ++ after)
  | .set flags rest => .set flags (rest ++ after)
  | .enter kind rest => .enter kind (rest ++ after)

theorem readRepetition_append_closing {bounds : Bounds} {items : List Ast} {step : Step}
    (readEq : readRepetition bounds items (text ++ closing) = .ok step) :
    ∃ own, step = own.append closing ∧ readRepetition bounds items text = .ok own := by
  rw [readRepetition, readGreed_append_closing] at readEq
  rcases Outcome.bind_eq_ok_iff.mp readEq with ⟨repeated, repeated_eq, equal⟩
  cases equal
  exact ⟨.items repeated (readGreed text).2, rfl,
    Outcome.bind_eq_ok_iff.mpr ⟨repeated, repeated_eq, rfl⟩⟩

/-- What the step leaves has no closing parenthesis, or nothing can be read from it. -/
def Step.IsDeadEnd (extended : Bool) : Step → Prop
  | .stop _ | .branch _ => False
  | .items _ rest => rest <:+ ['$'] ∨ IsStrayBrace extended rest
  | .set _ rest | .enter _ rest => rest <:+ ['$']

theorem readStep_append_closing {items : List Ast} {step : Step}
    (readEq : readStep extended items (text ++ closing) = .ok step) :
    (∃ own, step = own.append closing ∧ readStep extended items text = .ok own) ∨
      step.IsDeadEnd extended := by
  rw [readStep.eq_def] at readEq
  split at readEq
  case h_1 equal => cases (List.append_eq_nil_iff.mp equal).2
  case h_2 rest equal =>
      left
      cases readEq
      cases text with
      | nil =>
          cases equal
          exact ⟨.stop [], rfl, rfl⟩
      | cons c later =>
          cases equal
          exact ⟨.stop (')' :: later), rfl, rfl⟩
  case h_3 rest equal =>
      rcases exists_of_append_closing ['|'] equal (by decide) with ⟨own, rfl, rfl⟩
      cases readEq
      exact Or.inl ⟨.branch own, rfl, rfl⟩
  case h_4 rest equal =>
      rcases exists_of_append_closing ['('] equal (by decide) with ⟨own, rfl, rfl⟩
      rcases Outcome.bind_eq_ok_iff.mp readEq with ⟨opening, opens, equal⟩
      rcases readOpening_append_closing opens with ⟨opening, rfl, opensOwn⟩ | taken
      · left
        rw [List.singleton_append, readStep, opensOwn, Outcome.ok_bind]
        cases opening with
        | settings settings behind =>
            cases equal
            exact ⟨.set settings behind, rfl, rfl⟩
        | group kind behind =>
            cases equal
            exact ⟨.enter kind behind, rfl, rfl⟩
      · right
        cases opening with
        | settings settings behind =>
            cases equal
            exact taken
        | group kind behind =>
            cases equal
            exact taken
  case h_5 rest equal =>
      rcases exists_of_append_closing ['['] equal (by decide) with ⟨own, rfl, rfl⟩
      rcases Outcome.bind_eq_ok_iff.mp readEq with ⟨⟨item, remaining⟩, reads, equal⟩
      cases equal
      rcases readClass_append_closing reads with ⟨remaining, rfl, readsOwn⟩
      exact Or.inl ⟨.items (item :: items) remaining, rfl,
        Outcome.bind_eq_ok_iff.mpr ⟨(item, remaining), readsOwn, rfl⟩⟩
  case h_6 rest equal =>
      rcases exists_of_append_closing ['?'] equal (by decide) with ⟨own, rfl, rfl⟩
      exact Or.inl (readRepetition_append_closing readEq)
  case h_7 rest equal =>
      rcases exists_of_append_closing ['*'] equal (by decide) with ⟨own, rfl, rfl⟩
      exact Or.inl (readRepetition_append_closing readEq)
  case h_8 rest equal =>
      rcases exists_of_append_closing ['+'] equal (by decide) with ⟨own, rfl, rfl⟩
      exact Or.inl (readRepetition_append_closing readEq)
  case h_9 rest equal =>
      rcases exists_of_append_closing ['\x7b'] equal (by decide) with ⟨own, rfl, rfl⟩
      rcases Outcome.bind_eq_ok_iff.mp readEq with ⟨⟨bounds, remaining⟩, bounded, readEq⟩
      rcases readBounds_append_closing bounded with ⟨remaining, rfl, boundedOwn⟩
      simp only at readEq
      rcases skip_append_closing extended remaining with alike | blank
      · rw [alike] at readEq
        rcases readRepetition_append_closing readEq with ⟨ownStep, rfl, repeats⟩
        exact Or.inl ⟨ownStep, rfl,
          Outcome.bind_eq_ok_iff.mpr ⟨(bounds, remaining), boundedOwn, repeats⟩⟩
      · rw [blank] at readEq
        rcases Outcome.bind_eq_ok_iff.mp readEq with ⟨repeated, -, equal⟩
        cases equal
        exact Or.inr (Or.inl List.nil_suffix)
  case h_10 noText noEnd noBranch noGroup noClass noOption noStar noPlus noBounds =>
      rcases Outcome.bind_eq_ok_iff.mp readEq with ⟨⟨item, remaining⟩, reads, equal⟩
      cases equal
      rcases readsPart_readAtom item remaining reads with ⟨own, rfl, readsOwn⟩ | taken | ⟨-, stray⟩
      · refine Or.inl ⟨.items (item :: items) own, rfl, ?_⟩
        rw [readStep, readsOwn]
        · rfl
        · rintro rfl
          cases readsOwn
        · exact fun rest equal => noEnd _ (congrArg (· ++ closing) equal)
        · exact fun rest equal => noBranch _ (congrArg (· ++ closing) equal)
        · exact fun rest equal => noGroup _ (congrArg (· ++ closing) equal)
        · exact fun rest equal => noClass _ (congrArg (· ++ closing) equal)
        · exact fun rest equal => noOption _ (congrArg (· ++ closing) equal)
        · exact fun rest equal => noStar _ (congrArg (· ++ closing) equal)
        · exact fun rest equal => noPlus _ (congrArg (· ++ closing) equal)
        · exact fun rest equal => noBounds _ (congrArg (· ++ closing) equal)
      · exact Or.inr (Or.inl taken)
      · exact Or.inr (Or.inr stray)

/-- The next step before the closing; a comment can hide the closing, and with it the end. -/
theorem step_append_closing {items : List Ast} {step : Step}
    (readEq : readStep extended items (skip extended (text ++ closing)) = .ok step) :
    (∃ own, step = own.append closing ∧
        readStep extended items (skip extended text) = .ok own) ∨
      step = .stop [] ∨ step.IsDeadEnd extended := by
  rcases skip_append_closing extended text with alike | blank
  · rw [alike] at readEq
    rcases readStep_append_closing readEq with own | dead
    · exact Or.inl own
    · exact Or.inr (Or.inr dead)
  · rw [blank] at readEq
    cases readEq
    exact Or.inr (Or.inl rfl)

theorem not_readStep_of_isStrayBrace {items : List Ast} {step : Step}
    (stray : IsStrayBrace extended text) :
    readStep extended items (skip extended text) ≠ .ok step := by
  intro readEq
  rcases stray with ⟨rest, rfl, blank⟩
  have visible : skip extended ('\x7b' :: (rest ++ closing)) = '\x7b' :: (rest ++ closing) := by
    cases extended with
    | false => rfl
    | true =>
        have notBlank : isWhiteSpace '\x7b' = false := by decide +kernel
        rw [skip, if_pos rfl, dropBlanks, if_neg Bool.false_ne_true, notBlank,
          if_neg Bool.false_ne_true, if_neg (by decide)]
  rw [visible, readStep] at readEq
  rcases Outcome.bind_eq_ok_iff.mp readEq with ⟨⟨bounds, remaining⟩, bounded, -⟩
  rcases readBounds_append_closing bounded with ⟨own, -, boundedOwn⟩
  rw [readBounds_eq, blank] at boundedOwn
  cases boundedOwn

theorem ReadsInside.not_isStrayBrace {branches items : List Ast} {ast : Ast}
    (reads : ReadsInside extended branches items text ast left) :
    ¬IsStrayBrace extended text := by
  intro stray
  cases reads with
  | stop step => exact not_readStep_of_isStrayBrace stray step
  | branch step _ => exact not_readStep_of_isStrayBrace stray step
  | items step _ => exact not_readStep_of_isStrayBrace stray step
  | set step _ => exact not_readStep_of_isStrayBrace stray step
  | enter step _ _ => exact not_readStep_of_isStrayBrace stray step

/-- Where no closing parenthesis is left, everything is read. -/
theorem ReadsInside.left_eq_nil {branches items : List Ast} {ast : Ast}
    (reads : ReadsInside extended branches items text ast left) (within : text <:+ ['$']) :
    left = [] := by
  rcases reads.left_cases with nothing | ⟨behind, rfl⟩
  · exact nothing
  · have member := within.subset (reads.left_suffix.subset List.mem_cons_self)
    rcases List.mem_singleton.mp member with impossible
    cases impossible

/-- The inside of a group is read in front of the closing as it is alone, or nothing is left. -/
theorem ReadsInside.of_append_closing {branches items : List Ast} {ast : Ast}
    (reads : ReadsInside extended branches items (text ++ closing) ast left) :
    (∃ own, left = own ++ closing ∧ ReadsInside extended branches items text ast own) ∨
      left = [] := by
  generalize enclosed_eq : text ++ closing = enclosed at reads
  induction reads generalizing text with
  | stop step =>
      rcases enclosed_eq with rfl
      rcases step_append_closing step with ⟨own, equal, ownStep⟩ | equal | dead
      · cases own with
        | stop rest =>
            cases equal
            exact Or.inl ⟨rest, rfl, .stop ownStep⟩
        | _ => cases equal
      · cases equal
        exact Or.inr rfl
      · cases dead
  | branch step onward induction =>
      rcases enclosed_eq with rfl
      rcases step_append_closing step with ⟨own, equal, ownStep⟩ | equal | dead
      · cases own with
        | branch rest =>
            cases equal
            rcases induction rfl with ⟨remaining, rfl, readsOn⟩ | nothing
            · exact Or.inl ⟨remaining, rfl, .branch ownStep readsOn⟩
            · exact Or.inr nothing
        | _ => cases equal
      · cases equal
      · cases dead
  | items step onward induction =>
      rcases enclosed_eq with rfl
      rcases step_append_closing step with ⟨own, equal, ownStep⟩ | equal | within | stray
      · cases own with
        | items parts rest =>
            cases equal
            rcases induction rfl with ⟨remaining, rfl, readsOn⟩ | nothing
            · exact Or.inl ⟨remaining, rfl, .items ownStep readsOn⟩
            · exact Or.inr nothing
        | _ => cases equal
      · cases equal
      · exact Or.inr (onward.left_eq_nil within)
      · exact absurd stray onward.not_isStrayBrace
  | set step onward induction =>
      rcases enclosed_eq with rfl
      rcases step_append_closing step with ⟨own, equal, ownStep⟩ | equal | within
      · cases own with
        | set settings rest =>
            cases equal
            rcases induction rfl with ⟨remaining, rfl, readsOn⟩ | nothing
            · exact Or.inl ⟨remaining, rfl, .set ownStep readsOn⟩
            · exact Or.inr nothing
        | _ => cases equal
      · cases equal
      · exact Or.inr (onward.left_eq_nil within)
  | enter step inside onward inductionInside induction =>
      rcases enclosed_eq with rfl
      rcases step_append_closing step with ⟨own, equal, ownStep⟩ | equal | within
      · cases own with
        | enter kind rest =>
            cases equal
            rcases inductionInside rfl with ⟨between, between_eq, readsInside⟩ | impossible
            · cases between with
              | nil =>
                  -- the group takes the parenthesis of the closing for its own
                  cases between_eq
                  exact Or.inr (onward.left_eq_nil List.suffix_rfl)
              | cons c later =>
                  cases between_eq
                  rcases induction rfl with ⟨remaining, rfl, readsOn⟩ | nothing
                  · exact Or.inl ⟨remaining, rfl, .enter ownStep readsInside readsOn⟩
                  · exact Or.inr nothing
            · cases impossible
        | _ => cases equal
      · cases equal
      · cases inside.left_eq_nil within

end PhraseRules.Regex
