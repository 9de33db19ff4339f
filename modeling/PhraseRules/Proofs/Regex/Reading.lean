import PhraseRules.Proofs.Regex.Rests

/-!
# Reading step by step

The readers of classes and of whole expressions call themselves on what is left, within a fuel that
is never used up.  Here each is taken apart into a step that does not call itself and the steps that
follow: `ReadsClass` and `ReadsInside` are the runs of these steps, and the readers succeed exactly
where there is one.
-/

namespace PhraseRules.Regex

variable {extended : Bool} {text left : List Char}

/-! ## Bodies of classes -/

/-- What is read next in the body of a class. -/
inductive ClassStep where
  | close (rest : List Char)
  | operate (operation : ClassOperation) (rest : List Char)
  | add (item : ClassAst) (rest : List Char)
  | nest (negated : Bool) (opening : List ClassAst) (rest : List Char)

/-- The text behind a step. -/
def ClassStep.rest : ClassStep → List Char
  | .close rest | .operate _ rest | .add _ rest | .nest _ _ rest => rest

/-- The next step in the body of a class, from what is neither blank nor in a comment. -/
def readClassStep (extended : Bool) (text : List Char) : Except Fault ClassStep :=
  match text with
  | [] => .error .unclosedClass
  | ']' :: rest => .ok (.close rest)
  | '&' :: '&' :: rest => .ok (.operate .intersection rest)
  | '-' :: '-' :: rest => .ok (.operate .difference rest)
  | '~' :: '~' :: rest => .ok (.operate .symmetricDifference rest)
  | '[' :: rest =>
      match readNamedClass? rest with
      | some (item, left) => .ok (.add item left)
      | none => do
          let (negated, opening, inner) ← readClassOpening extended rest
          .ok (.nest negated opening inner)
  | text => do
      let (item, left) ← readClassItem extended text
      .ok (.add item left)

/-- The body of a class is what the next step and the steps behind it read. -/
theorem readClassBody_succ (extended : Bool) (fuel : Nat)
    (pending : Option (ClassOperation × ClassAst)) (items : List ClassAst) (text : List Char) :
    readClassBody extended (fuel + 1) pending items text = (do
      match ← readClassStep extended (skip extended text) with
      | .close rest => .ok (closeOperation pending (.ofItems items.reverse), rest)
      | .operate operation rest =>
          readClassBody extended fuel
            (some (operation, closeOperation pending (.ofItems items.reverse))) [] rest
      | .add item rest => readClassBody extended fuel pending (item :: items) rest
      | .nest negated opening rest => do
          let (body, left) ← readClassBody extended fuel none opening.reverse rest
          readClassBody extended fuel pending (.bracketed negated body :: items) left) := by
  rw [readClassBody]
  generalize skip extended text = behind
  split
  case h_6 rest =>
      rw [readClassStep]
      cases readNamedClass? rest with
      | some named => rfl
      | none =>
          cases readClassOpening extended rest with
          | error fault => rfl
          | ok opening => rfl
  case h_7 noText noEnd noIntersection noDifference noSymmetricDifference noClass =>
      rw [readClassStep]
      · cases readClassItem extended behind with
        | error fault => rfl
        | ok item => rfl
      all_goals assumption
  all_goals rfl

/-- Every step takes something from the text. -/
theorem readClassStep_suffix {step : ClassStep} (readEq : readClassStep extended text = .ok step) :
    step.rest <:+ text.tail := by
  rw [readClassStep.eq_def] at readEq
  split at readEq
  case h_1 => cases readEq
  case h_6 rest =>
      split at readEq
      case h_1 named =>
          cases readEq
          exact readNamedClass?_suffix named
      case h_2 =>
          rcases Outcome.bind_eq_ok_iff.mp readEq with
            ⟨⟨negated, opening, inner⟩, readOpening, equal⟩
          cases equal
          exact readClassOpening_suffix readOpening
  case h_7 nonempty _ _ _ _ _ =>
      rcases Outcome.bind_eq_ok_iff.mp readEq with ⟨⟨item, left⟩, readItem, equal⟩
      cases equal
      cases text with
      | nil => exact absurd rfl nonempty
      | cons c rest => exact readClassItem_suffix readItem
  all_goals
    cases readEq
    first
    | exact List.suffix_rfl
    | exact List.suffix_cons _ _

/-- The body of a class, read step by step up to its closing bracket. -/
inductive ReadsClass (extended : Bool) :
    Option (ClassOperation × ClassAst) → List ClassAst → List Char → ClassAst → List Char →
      Prop where
  | close {pending : Option (ClassOperation × ClassAst)} {items : List ClassAst}
      {text rest : List Char}
      (step : readClassStep extended (skip extended text) = .ok (.close rest)) :
      ReadsClass extended pending items text (closeOperation pending (.ofItems items.reverse)) rest
  | operate {pending : Option (ClassOperation × ClassAst)} {items : List ClassAst}
      {text rest left : List Char} {operation : ClassOperation} {body : ClassAst}
      (step : readClassStep extended (skip extended text) = .ok (.operate operation rest))
      (onward : ReadsClass extended
        (some (operation, closeOperation pending (.ofItems items.reverse))) [] rest body left) :
      ReadsClass extended pending items text body left
  | add {pending : Option (ClassOperation × ClassAst)} {items : List ClassAst}
      {text rest left : List Char} {item body : ClassAst}
      (step : readClassStep extended (skip extended text) = .ok (.add item rest))
      (onward : ReadsClass extended pending (item :: items) rest body left) :
      ReadsClass extended pending items text body left
  | nest {pending : Option (ClassOperation × ClassAst)} {items opening : List ClassAst}
      {text rest between left : List Char} {negated : Bool} {inner body : ClassAst}
      (step : readClassStep extended (skip extended text) = .ok (.nest negated opening rest))
      (inside : ReadsClass extended none opening.reverse rest inner between)
      (onward : ReadsClass extended pending (.bracketed negated inner :: items) between body left) :
      ReadsClass extended pending items text body left

/-- What a step leaves is the end of the text. -/
theorem rest_suffix_of_readClassStep {step : ClassStep}
    (readEq : readClassStep extended (skip extended text) = .ok step) : step.rest <:+ text :=
  (readClassStep_suffix readEq).trans <| (List.tail_suffix _).trans (skip_suffix extended text)

/-- A step leaves less than there was. -/
theorem length_rest_lt_of_readClassStep {step : ClassStep}
    (readEq : readClassStep extended (skip extended text) = .ok step) :
    step.rest.length < text.length := by
  have shorter := (readClassStep_suffix readEq).length_le
  have skipped := (skip_suffix extended text).length_le
  cases behind : skip extended text with
  | nil =>
      rw [behind] at readEq
      cases readEq
  | cons c rest =>
      rw [behind] at shorter skipped
      simp only [List.tail_cons, List.length_cons] at shorter skipped
      omega

theorem ReadsClass.length_left_lt {pending : Option (ClassOperation × ClassAst)}
    {items : List ClassAst} {body : ClassAst}
    (reads : ReadsClass extended pending items text body left) : left.length < text.length := by
  induction reads with
  | close step => exact length_rest_lt_of_readClassStep step
  | operate step onward induction =>
      exact Nat.lt_trans induction (length_rest_lt_of_readClassStep step)
  | add step onward induction => exact Nat.lt_trans induction (length_rest_lt_of_readClassStep step)
  | nest step inside onward inductionInside induction =>
      exact Nat.lt_trans induction <|
        Nat.lt_trans inductionInside (length_rest_lt_of_readClassStep step)

theorem ReadsClass.left_suffix {pending : Option (ClassOperation × ClassAst)}
    {items : List ClassAst} {body : ClassAst}
    (reads : ReadsClass extended pending items text body left) : left <:+ text := by
  induction reads with
  | close step => exact rest_suffix_of_readClassStep step
  | operate step onward induction => exact induction.trans (rest_suffix_of_readClassStep step)
  | add step onward induction => exact induction.trans (rest_suffix_of_readClassStep step)
  | nest step inside onward inductionInside induction =>
      exact induction.trans (inductionInside.trans (rest_suffix_of_readClassStep step))

theorem readsClass_of_readClassBody {fuel : Nat} {pending : Option (ClassOperation × ClassAst)}
    {items : List ClassAst} {body : ClassAst}
    (readEq : readClassBody extended fuel pending items text = .ok (body, left)) :
    ReadsClass extended pending items text body left := by
  induction fuel generalizing pending items text body left with
  | zero => cases readEq
  | succ fuel induction =>
      rw [readClassBody_succ] at readEq
      rcases Outcome.bind_eq_ok_iff.mp readEq with ⟨step, step_eq, readEq⟩
      cases step with
      | close rest =>
          cases readEq
          exact .close step_eq
      | operate operation rest => exact .operate step_eq (induction readEq)
      | add item rest => exact .add step_eq (induction readEq)
      | nest negated opening rest =>
          rcases Outcome.bind_eq_ok_iff.mp readEq with ⟨⟨inner, between⟩, readInner, readEq⟩
          exact .nest step_eq (induction readInner) (induction readEq)

theorem ReadsClass.readClassBody_eq {pending : Option (ClassOperation × ClassAst)}
    {items : List ClassAst} {body : ClassAst}
    (reads : ReadsClass extended pending items text body left) {fuel : Nat}
    (enough : text.length < fuel) :
    readClassBody extended fuel pending items text = .ok (body, left) := by
  induction reads generalizing fuel with
  | close step =>
      rcases Nat.exists_eq_add_one_of_ne_zero (Nat.ne_zero_of_lt enough) with ⟨fuel, rfl⟩
      rw [readClassBody_succ, step]
      rfl
  | operate step onward induction =>
      rcases Nat.exists_eq_add_one_of_ne_zero (Nat.ne_zero_of_lt enough) with ⟨fuel, rfl⟩
      have shorter := length_rest_lt_of_readClassStep step
      rw [readClassBody_succ, step]
      exact induction (Nat.lt_of_lt_of_le shorter (Nat.le_of_lt_succ enough))
  | add step onward induction =>
      rcases Nat.exists_eq_add_one_of_ne_zero (Nat.ne_zero_of_lt enough) with ⟨fuel, rfl⟩
      have shorter := length_rest_lt_of_readClassStep step
      rw [readClassBody_succ, step]
      exact induction (Nat.lt_of_lt_of_le shorter (Nat.le_of_lt_succ enough))
  | nest step inside onward inductionInside induction =>
      rcases Nat.exists_eq_add_one_of_ne_zero (Nat.ne_zero_of_lt enough) with ⟨fuel, rfl⟩
      have shorter := length_rest_lt_of_readClassStep step
      have enoughInside := Nat.lt_of_lt_of_le shorter (Nat.le_of_lt_succ enough)
      rw [readClassBody_succ, step, Outcome.ok_bind]
      simp only
      rw [inductionInside enoughInside, Outcome.ok_bind]
      exact induction (Nat.lt_trans inside.length_left_lt enoughInside)

/-- A class is its opening and its body. -/
theorem readClass_eq_ok_iff {ast : Ast} :
    readClass extended text = .ok (ast, left) ↔
      ∃ negated opening inner body,
        readClassOpening extended text = .ok (negated, opening, inner) ∧
          ReadsClass extended none opening.reverse inner body left ∧
            ast = .bracketed negated body := by
  rw [readClass]
  constructor
  · intro readEq
    rcases Outcome.bind_eq_ok_iff.mp readEq with ⟨⟨negated, opening, inner⟩, opening_eq, readEq⟩
    rcases Outcome.bind_eq_ok_iff.mp readEq with ⟨⟨body, remaining⟩, body_eq, equal⟩
    cases equal
    exact ⟨negated, opening, inner, body, opening_eq, readsClass_of_readClassBody body_eq, rfl⟩
  · rintro ⟨negated, opening, inner, body, opening_eq, reads, rfl⟩
    have enough := Nat.lt_succ_of_le (readClassOpening_suffix opening_eq).length_le
    rw [opening_eq, Outcome.ok_bind]
    simp only
    rw [reads.readClassBody_eq enough]
    rfl

/-! ## Insides of groups -/

/-- What is read next inside a group. -/
inductive Step where
  /-- The group ends, or the text does. -/
  | stop (rest : List Char)
  | branch (rest : List Char)
  /-- The items of the branch, last one first, become these. -/
  | items (items : List Ast) (rest : List Char)
  | set (settings : List FlagSetting) (rest : List Char)
  | enter (kind : GroupKind) (rest : List Char)

/-- The text behind a step. -/
def Step.rest : Step → List Char
  | .stop rest | .branch rest | .items _ rest | .set _ rest | .enter _ rest => rest

/-- The repetition of the last of the items, when its bounds are read. -/
def readRepetition (bounds : Bounds) (items : List Ast) (text : List Char) : Except Fault Step := do
  .ok (.items (← repeatLast bounds (readGreed text).1 items) (readGreed text).2)

/-- The next step inside a group, from what is neither blank nor in a comment. -/
def readStep (extended : Bool) (items : List Ast) (text : List Char) : Except Fault Step :=
  match text with
  | [] => .ok (.stop [])
  | ')' :: rest => .ok (.stop (')' :: rest))
  | '|' :: rest => .ok (.branch rest)
  | '(' :: rest => do
      match ← readOpening extended rest with
      | .settings settings left => .ok (.set settings left)
      | .group kind left => .ok (.enter kind left)
  | '[' :: rest => do
      let (item, left) ← readClass extended rest
      .ok (.items (item :: items) left)
  | '?' :: rest => readRepetition ⟨0, some 1⟩ items rest
  | '*' :: rest => readRepetition ⟨0, none⟩ items rest
  | '+' :: rest => readRepetition ⟨1, none⟩ items rest
  | '\x7b' :: rest => do
      let (bounds, left) ← readBounds extended rest
      readRepetition bounds items (skip extended left)
  | text => do
      let (item, left) ← readAtom extended text
      .ok (.items (item :: items) left)

/-- The inside of a group is what the next step and the steps behind it read. -/
theorem readInside_succ (fuel : Nat) (extended : Bool) (branches items : List Ast)
    (text : List Char) :
    readInside (fuel + 1) extended branches items text = (do
      match ← readStep extended items (skip extended text) with
      | .stop rest => .ok (closeBranches branches items, rest)
      | .branch rest => readInside fuel extended (.ofItems items.reverse :: branches) [] rest
      | .items items rest => readInside fuel extended branches items rest
      | .set settings rest =>
          readInside fuel (extendedAfter extended settings) branches (.flags settings :: items) rest
      | .enter kind rest => do
          let (body, left) ← readInside fuel (extendedInside extended kind) [] [] rest
          match left with
          | ')' :: left => readInside fuel extended branches (.group kind body :: items) left
          | _ => .error .unclosedGroup) := by
  have repeated : ∀ (bounds : Bounds) (text : List Char)
      (next : Step → Except Fault (Ast × List Char)),
      (readRepetition bounds items text >>= next) = (do
        let items ← repeatLast bounds (readGreed text).1 items
        next (.items items (readGreed text).2)) := by
    intro bounds text next
    rw [readRepetition]
    cases repeatLast bounds (readGreed text).1 items with
    | error fault => rfl
    | ok items => rfl
  rw [readInside]
  generalize skip extended text = behind
  split
  case h_4 rest =>
      rw [readStep]
      cases readOpening extended rest with
      | error fault => rfl
      | ok opening =>
          cases opening with
          | settings settings left => rfl
          | group kind left => rfl
  case h_5 rest =>
      rw [readStep]
      cases readClass extended rest with
      | error fault => rfl
      | ok item => rfl
  case h_6 rest =>
      rw [readStep, repeated]
  case h_7 rest =>
      rw [readStep, repeated]
  case h_8 rest =>
      rw [readStep, repeated]
  case h_9 rest =>
      rw [readStep]
      cases readBounds extended rest with
      | error fault => rfl
      | ok read =>
          rw [Outcome.ok_bind, Outcome.ok_bind, repeated]
  case h_10 =>
      rw [readStep]
      · cases readAtom extended behind with
        | error fault => rfl
        | ok item => rfl
      all_goals assumption
  all_goals rfl

/-- Whether the step is the last one. -/
def Step.isStop : Step → Bool
  | .stop _ => true
  | .branch _ | .items _ _ | .set _ _ | .enter _ _ => false

theorem readRepetition_suffix {bounds : Bounds} {items : List Ast} {step : Step}
    (readEq : readRepetition bounds items text = .ok step) :
    step.isStop = false ∧ step.rest <:+ text := by
  rcases Outcome.bind_eq_ok_iff.mp readEq with ⟨repeated, -, equal⟩
  cases equal
  exact ⟨rfl, readGreed_suffix text⟩

/--
The last step stands before a closing parenthesis or the end of the text.  Every other one takes
something from the text.
-/
theorem readStep_cases {items : List Ast} {step : Step}
    (readEq : readStep extended items text = .ok step) :
    (step = .stop text ∧ (text = [] ∨ ∃ behind, text = ')' :: behind)) ∨
      (step.isStop = false ∧ step.rest <:+ text.tail ∧ text ≠ []) := by
  rw [readStep.eq_def] at readEq
  split at readEq
  case h_1 =>
      cases readEq
      exact Or.inl ⟨rfl, Or.inl rfl⟩
  case h_2 rest =>
      cases readEq
      exact Or.inl ⟨rfl, Or.inr ⟨rest, rfl⟩⟩
  case h_3 =>
      cases readEq
      exact Or.inr ⟨rfl, List.suffix_rfl, List.cons_ne_nil _ _⟩
  case h_4 rest =>
      rcases Outcome.bind_eq_ok_iff.mp readEq with ⟨opening, readOpening, equal⟩
      have within := readOpening_suffix readOpening
      cases opening with
      | settings settings left =>
          cases equal
          exact Or.inr ⟨rfl, within, List.cons_ne_nil _ _⟩
      | group kind left =>
          cases equal
          exact Or.inr ⟨rfl, within, List.cons_ne_nil _ _⟩
  case h_5 =>
      rcases Outcome.bind_eq_ok_iff.mp readEq with ⟨⟨item, left⟩, readClass, equal⟩
      cases equal
      rcases readClass_eq_ok_iff.mp readClass with
        ⟨negated, opening, inner, body, opening_eq, reads, -⟩
      exact Or.inr ⟨rfl, reads.left_suffix.trans (readClassOpening_suffix opening_eq),
        List.cons_ne_nil _ _⟩
  case h_9 =>
      rcases Outcome.bind_eq_ok_iff.mp readEq with ⟨⟨bounds, left⟩, readBounds, readEq⟩
      rcases readRepetition_suffix readEq with ⟨goesOn, within⟩
      exact Or.inr ⟨goesOn, within.trans <|
        (skip_suffix extended left).trans (readBounds_suffix readBounds), List.cons_ne_nil _ _⟩
  case h_10 nonempty _ _ _ _ _ _ _ _ =>
      rcases Outcome.bind_eq_ok_iff.mp readEq with ⟨⟨item, left⟩, readAtom, equal⟩
      cases equal
      cases text with
      | nil => exact absurd rfl nonempty
      | cons c rest => exact Or.inr ⟨rfl, readAtom_suffix readAtom, List.cons_ne_nil _ _⟩
  all_goals
    rcases readRepetition_suffix readEq with ⟨goesOn, within⟩
    exact Or.inr ⟨goesOn, within, List.cons_ne_nil _ _⟩

/-- The inside of a group, read step by step up to its closing parenthesis or the end. -/
inductive ReadsInside :
    Bool → List Ast → List Ast → List Char → Ast → List Char → Prop where
  | stop {extended : Bool} {branches items : List Ast} {text left : List Char}
      (step : readStep extended items (skip extended text) = .ok (.stop left)) :
      ReadsInside extended branches items text (closeBranches branches items) left
  | branch {extended : Bool} {branches items : List Ast} {text rest left : List Char} {ast : Ast}
      (step : readStep extended items (skip extended text) = .ok (.branch rest))
      (onward : ReadsInside extended (.ofItems items.reverse :: branches) [] rest ast left) :
      ReadsInside extended branches items text ast left
  | items {extended : Bool} {branches items following : List Ast} {text rest left : List Char}
      {ast : Ast}
      (step : readStep extended items (skip extended text) = .ok (.items following rest))
      (onward : ReadsInside extended branches following rest ast left) :
      ReadsInside extended branches items text ast left
  | set {extended : Bool} {branches items : List Ast} {settings : List FlagSetting}
      {text rest left : List Char} {ast : Ast}
      (step : readStep extended items (skip extended text) = .ok (.set settings rest))
      (onward : ReadsInside (extendedAfter extended settings) branches (.flags settings :: items)
        rest ast left) :
      ReadsInside extended branches items text ast left
  | enter {extended : Bool} {branches items : List Ast} {kind : GroupKind}
      {text rest between left : List Char} {body ast : Ast}
      (step : readStep extended items (skip extended text) = .ok (.enter kind rest))
      (inside : ReadsInside (extendedInside extended kind) [] [] rest body (')' :: between))
      (onward : ReadsInside extended branches (.group kind body :: items) between ast left) :
      ReadsInside extended branches items text ast left

theorem readsInside_of_readInside {fuel : Nat} {branches items : List Ast} {ast : Ast}
    (readEq : readInside fuel extended branches items text = .ok (ast, left)) :
    ReadsInside extended branches items text ast left := by
  induction fuel generalizing extended branches items text ast left with
  | zero => cases readEq
  | succ fuel induction =>
      rw [readInside_succ] at readEq
      rcases Outcome.bind_eq_ok_iff.mp readEq with ⟨step, step_eq, readEq⟩
      cases step with
      | stop rest =>
          cases readEq
          exact .stop step_eq
      | branch rest => exact .branch step_eq (induction readEq)
      | items following rest => exact .items step_eq (induction readEq)
      | set settings rest => exact .set step_eq (induction readEq)
      | enter kind rest =>
          rcases Outcome.bind_eq_ok_iff.mp readEq with ⟨⟨body, between⟩, readBody, readEq⟩
          simp only at readEq
          split at readEq
          case h_1 => exact .enter step_eq (induction readBody) (induction readEq)
          case h_2 => cases readEq

/-- The readers of groups leave a closing parenthesis or nothing. -/
theorem ReadsInside.left_cases {branches items : List Ast} {ast : Ast}
    (reads : ReadsInside extended branches items text ast left) :
    left = [] ∨ ∃ behind, left = ')' :: behind := by
  induction reads with
  | stop step =>
      rcases readStep_cases step with ⟨equal, ending⟩ | ⟨goesOn, -⟩
      · cases equal
        exact ending
      · cases goesOn
  | branch step onward induction => exact induction
  | items step onward induction => exact induction
  | set step onward induction => exact induction
  | enter step inside onward inductionInside induction => exact induction

/-- What the next step leaves is the end of the text. -/
theorem rest_suffix_of_readStep {items : List Ast} {step : Step}
    (readEq : readStep extended items (skip extended text) = .ok step) : step.rest <:+ text := by
  have skipped := skip_suffix extended text
  rcases readStep_cases readEq with ⟨rfl, -⟩ | ⟨-, within, -⟩
  · exact skipped
  · exact within.trans ((List.tail_suffix _).trans skipped)

theorem ReadsInside.left_suffix {branches items : List Ast} {ast : Ast}
    (reads : ReadsInside extended branches items text ast left) : left <:+ text := by
  induction reads with
  | stop step => exact rest_suffix_of_readStep step
  | branch step onward induction => exact induction.trans (rest_suffix_of_readStep step)
  | items step onward induction => exact induction.trans (rest_suffix_of_readStep step)
  | set step onward induction => exact induction.trans (rest_suffix_of_readStep step)
  | enter step inside onward inductionInside induction =>
      exact induction.trans <| (List.suffix_cons _ _).trans <|
        inductionInside.trans (rest_suffix_of_readStep step)

/-- A step that is not the last one leaves less than there was. -/
theorem length_rest_lt_of_readStep {items : List Ast} {step : Step}
    (readEq : readStep extended items (skip extended text) = .ok step)
    (goesOn : step.isStop = false) : step.rest.length < text.length := by
  have skipped := (skip_suffix extended text).length_le
  rcases readStep_cases readEq with ⟨rfl, -⟩ | ⟨-, within, nonempty⟩
  · cases goesOn
  · have shorter := within.length_le
    rw [List.length_tail] at shorter
    have := List.length_pos_iff.mpr nonempty
    omega

theorem ReadsInside.readInside_eq {branches items : List Ast} {ast : Ast}
    (reads : ReadsInside extended branches items text ast left) {fuel : Nat}
    (enough : text.length < fuel) :
    readInside fuel extended branches items text = .ok (ast, left) := by
  induction reads generalizing fuel with
  | stop step =>
      rcases Nat.exists_eq_add_one_of_ne_zero (Nat.ne_zero_of_lt enough) with ⟨fuel, rfl⟩
      rw [readInside_succ, step]
      rfl
  | branch step onward induction =>
      rcases Nat.exists_eq_add_one_of_ne_zero (Nat.ne_zero_of_lt enough) with ⟨fuel, rfl⟩
      have shorter := length_rest_lt_of_readStep step rfl
      rw [readInside_succ, step]
      exact induction (Nat.lt_of_lt_of_le shorter (Nat.le_of_lt_succ enough))
  | items step onward induction =>
      rcases Nat.exists_eq_add_one_of_ne_zero (Nat.ne_zero_of_lt enough) with ⟨fuel, rfl⟩
      have shorter := length_rest_lt_of_readStep step rfl
      rw [readInside_succ, step]
      exact induction (Nat.lt_of_lt_of_le shorter (Nat.le_of_lt_succ enough))
  | set step onward induction =>
      rcases Nat.exists_eq_add_one_of_ne_zero (Nat.ne_zero_of_lt enough) with ⟨fuel, rfl⟩
      have shorter := length_rest_lt_of_readStep step rfl
      rw [readInside_succ, step]
      exact induction (Nat.lt_of_lt_of_le shorter (Nat.le_of_lt_succ enough))
  | enter step inside onward inductionInside induction =>
      rcases Nat.exists_eq_add_one_of_ne_zero (Nat.ne_zero_of_lt enough) with ⟨fuel, rfl⟩
      have shorter := length_rest_lt_of_readStep step rfl
      have enoughInside := Nat.lt_of_lt_of_le shorter (Nat.le_of_lt_succ enough)
      have within := Nat.lt_of_lt_of_le (Nat.lt_succ_self _) inside.left_suffix.length_le
      rw [readInside_succ, step, Outcome.ok_bind]
      simp only
      rw [inductionInside enoughInside, Outcome.ok_bind]
      exact induction (Nat.lt_trans within enoughInside)

/-! ## Runs by their first step -/

section

variable {branches items : List Ast} {rest : List Char} {ast : Ast}

theorem readsInside_stop_iff {final : List Char}
    (step : readStep extended items (skip extended text) = .ok (.stop final)) :
    ReadsInside extended branches items text ast left ↔
      ast = closeBranches branches items ∧ left = final := by
  constructor
  · intro reads
    cases reads with
    | stop other =>
        cases step.symm.trans other
        exact ⟨rfl, rfl⟩
    | branch other _ => cases step.symm.trans other
    | items other _ => cases step.symm.trans other
    | set other _ => cases step.symm.trans other
    | enter other _ _ => cases step.symm.trans other
  · rintro ⟨rfl, rfl⟩
    exact .stop step

theorem readsInside_items_iff (following : List Ast)
    (step : readStep extended items (skip extended text) = .ok (.items following rest)) :
    ReadsInside extended branches items text ast left ↔
      ReadsInside extended branches following rest ast left := by
  constructor
  · intro reads
    cases reads with
    | items other onward =>
        cases step.symm.trans other
        exact onward
    | stop other => cases step.symm.trans other
    | branch other _ => cases step.symm.trans other
    | set other _ => cases step.symm.trans other
    | enter other _ _ => cases step.symm.trans other
  · exact .items step

theorem readsInside_set_iff (settings : List FlagSetting)
    (step : readStep extended items (skip extended text) = .ok (.set settings rest)) :
    ReadsInside extended branches items text ast left ↔
      ReadsInside (extendedAfter extended settings) branches (.flags settings :: items) rest
        ast left := by
  constructor
  · intro reads
    cases reads with
    | set other onward =>
        cases step.symm.trans other
        exact onward
    | stop other => cases step.symm.trans other
    | branch other _ => cases step.symm.trans other
    | items other _ => cases step.symm.trans other
    | enter other _ _ => cases step.symm.trans other
  · exact .set step

theorem readsInside_enter_iff (kind : GroupKind)
    (step : readStep extended items (skip extended text) = .ok (.enter kind rest)) :
    ReadsInside extended branches items text ast left ↔
      ∃ body between,
        ReadsInside (extendedInside extended kind) [] [] rest body (')' :: between) ∧
          ReadsInside extended branches (.group kind body :: items) between ast left := by
  constructor
  · intro reads
    cases reads with
    | enter other inside onward =>
        cases step.symm.trans other
        exact ⟨_, _, inside, onward⟩
    | stop other => cases step.symm.trans other
    | branch other _ => cases step.symm.trans other
    | items other _ => cases step.symm.trans other
    | set other _ => cases step.symm.trans other
  · rintro ⟨body, between, inside, onward⟩
    exact .enter step inside onward

theorem not_readsInside_of_readStep {fault : Fault}
    (fails : readStep extended items (skip extended text) = .error fault) :
    ¬ReadsInside extended branches items text ast left := by
  intro reads
  cases reads with
  | stop step => cases fails.symm.trans step
  | branch step _ => cases fails.symm.trans step
  | items step _ => cases fails.symm.trans step
  | set step _ => cases fails.symm.trans step
  | enter step _ _ => cases fails.symm.trans step

end

/-- A text writes an expression if it is read to its end and the result is in order. -/
theorem parse_eq {ast : Ast} (reads : ReadsInside false [] [] text ast left) :
    Ast.parse text =
      if !left.isEmpty then .error .unopenedGroup
      else if !allDistinct ast.groupNames then .error .repeatedGroupName
      else if ast.depth > greatestDepth then .error .nestedTooDeeply
      else .ok ast := by
  rw [Ast.parse, reads.readInside_eq (Nat.lt_succ_self _)]
  rfl

theorem parse_eq_of_groupNames_eq_nil {ast : Ast} (reads : ReadsInside false [] [] text ast [])
    (unnamed : ast.groupNames = []) :
    Ast.parse text =
      if ast.depth > greatestDepth then .error .nestedTooDeeply else .ok ast := by
  rw [parse_eq reads, unnamed]
  rfl

theorem readsInside_of_parse_eq_ok {ast : Ast} (parsed : Ast.parse text = .ok ast) :
    ReadsInside false [] [] text ast [] ∧ allDistinct ast.groupNames = true ∧
      ast.depth ≤ greatestDepth := by
  rw [Ast.parse] at parsed
  rcases Outcome.bind_eq_ok_iff.mp parsed with ⟨⟨read, left⟩, readEq, parsed⟩
  simp only at parsed
  split_ifs at parsed with remaining repeated deep
  cases parsed
  have left_eq : left = [] := by simpa using remaining
  subst left_eq
  exact ⟨readsInside_of_readInside readEq, by simpa using repeated, Nat.le_of_not_lt deep⟩

end PhraseRules.Regex
