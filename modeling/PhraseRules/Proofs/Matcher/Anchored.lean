import PhraseRules.Matcher.Basic
import PhraseRules.Proofs.Regex.Enclosed.Group
import PhraseRules.Proofs.Regex.Reach

/-!
# Anchored patterns

A matcher writes its pattern into `^(?:` and `)$` and compiles what comes out.  Where the pattern
closes no group that it did not open, this is the pattern's own expression between the two ends of
the text: `compile_anchored` says that the pattern is then an expression by itself, and that the
anchored one finds a match in a text just where the pattern's own one matches all of it.
-/

namespace PhraseRules.Regex

/-- The regular expression that a text writes, when case does not count unless it says so. -/
def compileUnder (caseInsensitive : Bool) (text : String) : Except Fault Regex := do
  let ast ← Ast.parse text.toList
  let (expr, context) ← ast.expr ⟨{ Flags.initial with caseInsensitive }, 0, []⟩
  if expr.fits then .ok ⟨expr, context.names⟩ else .error .tooLarge

theorem compileUnder_false (text : String) : compileUnder false text = compile text :=
  rfl

/-- The expression matches the whole of the text. -/
def MatchesWhole (regex : Regex) (text : String) : Prop :=
  regex.expr.Reaches text.toList.toArray ⟨0, []⟩ text.toList.length

/-! ## Looking at both ends -/

variable {text : Array Char}

theorem mem_arrivals_textStart_iff {arrival between : Arrival}
    (within : arrival.place ≤ text.size) :
    between ∈ (Expr.look .textStart).arrivals text arrival ↔
      between = arrival ∧ arrival.place = 0 := by
  have holds_iff :
      Look.textStart.holds (charBefore text arrival.place) text[arrival.place]? = true ↔
        arrival.place = 0 := by
    cases place_eq : arrival.place with
    | zero => simp [Look.holds, charBefore]
    | succ before =>
        have less : before < text.size := by omega
        simp [Look.holds, charBefore, less]
  rw [Expr.arrivals]
  split
  case isTrue holds => simp [holds_iff.mp holds]
  case isFalse fails => simp [mt holds_iff.mpr fails]

theorem reaches_textEnd_iff {arrival : Arrival} {place : Nat} (within : arrival.place ≤ text.size) :
    (Expr.look .textEnd).Reaches text arrival place ↔
      place = arrival.place ∧ arrival.place = text.size := by
  rw [Expr.reaches_look_iff, Look.holds]
  refine and_congr_right fun _ => ?_
  rw [Option.isNone_iff_eq_none, Array.getElem?_eq_none_iff]
  omega

/-- Between the two ends of the text an expression leads from the one to the other. -/
theorem reaches_between_ends_iff {body : Expr} {arrival : Arrival} {place : Nat}
    (within : arrival.place ≤ text.size) :
    (Expr.sequence [.look .textStart, body, .look .textEnd]).Reaches text arrival place ↔
      place = text.size ∧ arrival.place = 0 ∧ body.Reaches text arrival text.size := by
  rw [Expr.reaches_sequence_cons_iff]
  simp only [mem_arrivals_textStart_iff within, and_assoc, exists_eq_left]
  rw [Expr.reaches_sequence_cons_iff]
  constructor
  · rintro ⟨atStart, between, member, reachesEnd⟩
    rcases (reaches_textEnd_iff (body.keeps_place_le_size arrival within between member)).mp
      reachesEnd with ⟨place_eq, atEnd⟩
    exact ⟨place_eq.trans atEnd, atStart, List.mem_map.mpr ⟨between, member, atEnd⟩⟩
  · rintro ⟨rfl, atStart, reaches⟩
    rcases List.mem_map.mp reaches with ⟨between, member, atEnd⟩
    refine ⟨atStart, between, member, ?_⟩
    exact (reaches_textEnd_iff (Nat.le_of_eq atEnd)).mpr ⟨atEnd.symm, atEnd⟩

/-- A search for an expression between the two ends finds the texts that it matches as a whole. -/
theorem isMatch_between_ends_iff {body : Expr} {names : List (String × Nat)} {text : String} :
    isMatch ⟨.sequence [.look .textStart, body, .look .textEnd], names⟩ text = true ↔
      MatchesWhole ⟨body, names⟩ text := by
  rw [isMatch_iff, MatchesWhole]
  have size_eq : text.toList.toArray.size = text.toList.length := List.size_toArray
  constructor
  · rintro ⟨start, within, place, reaches⟩
    rcases (reaches_between_ends_iff (size_eq ▸ within)).mp reaches with ⟨-, rfl, reaches⟩
    rwa [size_eq] at reaches
  · intro reaches
    refine ⟨0, Nat.zero_le _, _, (reaches_between_ends_iff (Nat.zero_le _)).mpr ⟨rfl, rfl, ?_⟩⟩
    rwa [size_eq]

/-! ## Room -/

/-- A repetition that costs nothing in a sequence has no times, or is what it repeats. -/
theorem Cost.size_repetition_of_isEmpty {body : Cost} {isBlank mayBeBlank : Bool} {least : Nat}
    {most : Option Nat} (ofBody : body.isEmpty = true → body.size = stateSize)
    (isEmpty : (body.repetition isBlank mayBeBlank least most).isEmpty = true) :
    (body.repetition isBlank mayBeBlank least most).size = stateSize := by
  rw [repetition] at isEmpty ⊢
  generalize (if isBlank then min least 1 else least) = fewest at isEmpty ⊢
  generalize (if isBlank then some (min (most.getD 1) 1) else most) = greatest at isEmpty ⊢
  simp only at isEmpty ⊢
  split at isEmpty
  case isTrue once =>
      rw [if_pos once]
      exact ofBody isEmpty
  case isFalse more =>
      rw [if_neg more]
      rcases beq_iff_eq.mp isEmpty with rfl
      rfl

/-- What costs nothing in a sequence takes one state by itself. -/
theorem size_of_isEmpty {sizeOf : CharSet → Nat} {captureSize : Nat} {expr : Expr}
    (isEmpty : (expr.cost sizeOf captureSize).isEmpty = true) :
    (expr.cost sizeOf captureSize).size = stateSize := by
  induction expr with
  | empty => rfl
  | chars set => cases isEmpty
  | look condition => cases isEmpty
  | concat first second inductionFirst inductionSecond =>
      rw [Expr.cost, Cost.concat] at isEmpty ⊢
      split at isEmpty
      case isTrue firstEmpty =>
          rw [if_pos firstEmpty]
          exact inductionSecond isEmpty
      case isFalse firstStands =>
          split at isEmpty
          case isTrue => exact absurd isEmpty firstStands
          case isFalse => cases isEmpty
  | choice left right =>
      rw [Expr.cost, Cost.choice.eq_def] at isEmpty
      split at isEmpty
      case h_1 => cases isEmpty
      case h_2 => cases isEmpty
  | repetition body least most greedy induction =>
      exact Cost.size_repetition_of_isEmpty induction isEmpty
  | capture number body induction => cases isEmpty

/-- Between two assertions an expression takes no less room than alone. -/
theorem size_le_size_between {sizeOf : CharSet → Nat} {captureSize : Nat} {body : Expr}
    {first last : Look} :
    (body.cost sizeOf captureSize).size ≤
      ((Expr.sequence [.look first, body, .look last]).cost sizeOf captureSize).size := by
  cases isEmpty : (body.cost sizeOf captureSize).isEmpty with
  | true =>
      rw [size_of_isEmpty isEmpty]
      simp [Expr.sequence, Expr.cost, Cost.concat, Cost.ofSize, isEmpty]
  | false =>
      simp only [Expr.sequence, Expr.cost, Cost.concat, Cost.ofSize, isEmpty, Bool.false_eq_true,
        if_false]
      omega

theorem fits_of_fits_between {body : Expr} {first last : Look}
    (fits : (Expr.sequence [.look first, body, .look last]).fits = true) : body.fits = true := by
  have quick := @size_le_size_between CharSet.sizeBound (2 * stateSize) body first last
  have forwards := @size_le_size_between (CharSet.size .forward) (2 * stateSize) body first last
  have backwards := @size_le_size_between (CharSet.size .backward) 0 body first last
  rw [Expr.fits, Bool.or_eq_true, Bool.and_eq_true, decide_eq_true_iff, decide_eq_true_iff,
    decide_eq_true_iff] at fits ⊢
  simp only [Expr.size] at fits ⊢
  omega

end PhraseRules.Regex

namespace PhraseRules.Matcher

open PhraseRules.Regex

variable {pattern : String} {caseSensitive : Bool}

/-! ## The text around a pattern -/

/-- The items that a pattern's expression comes to stand behind, last one first. -/
def openingItems (caseSensitive : Bool) : List Ast :=
  .assertion .lineStart :: if caseSensitive then [] else [.flags [⟨.caseInsensitive, true⟩]]

/-- A pattern's expression between the ends of the text. -/
def anchoredAst (caseSensitive : Bool) (body : Ast) : Ast :=
  closeBranches []
    (.assertion .lineEnd :: .group (.uncaptured []) body :: openingItems caseSensitive)

theorem toList_anchored_true :
    (anchored pattern true).toList = '^' :: '(' :: '?' :: ':' :: (pattern.toList ++ closing) := by
  rw [anchored, String.toList_append, String.toList_append]
  rfl

theorem toList_anchored_false :
    (anchored pattern false).toList =
      '(' :: '?' :: 'i' :: ')' :: '^' :: '(' :: '?' :: ':' :: (pattern.toList ++ closing) := by
  rw [anchored, String.toList_append, String.toList_append]
  rfl

/-- What is read of an anchored pattern is what is read of the pattern in front of the closing. -/
theorem readsInside_anchored_iff {ast : Ast} {left : List Char} :
    ReadsInside false [] [] (anchored pattern caseSensitive).toList ast left ↔
      ∃ body between, ReadsInside false [] [] (pattern.toList ++ closing) body (')' :: between) ∧
        ReadsInside false [] (.group (.uncaptured []) body :: openingItems caseSensitive) between
          ast left := by
  have wrapped : ∀ items : List Ast,
      ReadsInside false [] items ('^' :: '(' :: '?' :: ':' :: (pattern.toList ++ closing)) ast
          left ↔
        ∃ body between,
          ReadsInside false [] [] (pattern.toList ++ closing) body (')' :: between) ∧
            ReadsInside false [] (.group (.uncaptured []) body :: .assertion .lineStart :: items)
              between ast left := by
    intro items
    rw [readsInside_items_iff (.assertion .lineStart :: items) rfl,
      readsInside_enter_iff (.uncaptured []) rfl]
    rfl
  cases caseSensitive with
  | true =>
      rw [toList_anchored_true]
      exact wrapped []
  | false =>
      rw [toList_anchored_false, readsInside_set_iff [⟨.caseInsensitive, true⟩] rfl]
      exact wrapped _

theorem readsInside_lineEnd_iff {items : List Ast} {ast : Ast} {left : List Char} :
    ReadsInside false [] items ['$'] ast left ↔
      ast = closeBranches [] (.assertion .lineEnd :: items) ∧ left = [] := by
  rw [readsInside_items_iff (.assertion .lineEnd :: items) rfl]
  exact readsInside_stop_iff rfl

theorem groupNames_anchoredAst (body : Ast) :
    (anchoredAst caseSensitive body).groupNames = body.groupNames := by
  cases caseSensitive with
  | true => simp [anchoredAst, openingItems, closeBranches, Ast.ofItems, Ast.ofBranches,
      Ast.groupNames, Ast.groupNamesOfAll]
  | false => simp [anchoredAst, openingItems, closeBranches, Ast.ofItems, Ast.ofBranches,
      Ast.groupNames, Ast.groupNamesOfAll]

theorem depth_anchoredAst (body : Ast) :
    (anchoredAst caseSensitive body).depth = body.depth + 2 := by
  cases caseSensitive with
  | true => simp [anchoredAst, openingItems, closeBranches, Ast.ofItems, Ast.ofBranches,
      Ast.depth, Ast.depthOfAll]
  | false => simp [anchoredAst, openingItems, closeBranches, Ast.ofItems, Ast.ofBranches,
      Ast.depth, Ast.depthOfAll]

/-- An anchored pattern that can be read has a pattern that can be read, or closes its group. -/
theorem parse_of_parse_anchored {ast : Ast}
    (parsed : Ast.parse (anchored pattern caseSensitive).toList = .ok ast) :
    Ast.parse pattern.toList = .error .unopenedGroup ∨
      ∃ body, Ast.parse pattern.toList = .ok body ∧ ast = anchoredAst caseSensitive body := by
  rcases readsInside_of_parse_eq_ok parsed with ⟨reads, distinctNames, shallow⟩
  rcases readsInside_anchored_iff.mp reads with ⟨body, between, readsBody, readsEnd⟩
  rcases readsBody.of_append_closing with ⟨own, own_eq, readsOwn⟩ | impossible
  · cases own with
    | nil =>
        cases own_eq
        rcases readsInside_lineEnd_iff.mp readsEnd with ⟨rfl, -⟩
        refine Or.inr ⟨body, ?_, rfl⟩
        rw [← anchoredAst, depth_anchoredAst] at shallow
        rw [← anchoredAst, groupNames_anchoredAst] at distinctNames
        have notDeep : ¬body.depth > greatestDepth := by omega
        rw [parse_eq readsOwn, distinctNames, if_neg notDeep]
        rfl
    | cons c later =>
        cases own_eq
        left
        rw [parse_eq readsOwn]
        rfl
  · cases impossible

/-- The flags under which a matcher compiles its pattern. -/
def patternFlags (caseSensitive : Bool) : Flags :=
  { Flags.initial with caseInsensitive := !caseSensitive }

/-- An expression between the ends of the text, as anchoring makes it. -/
def anchoredExpr (caseSensitive : Bool) (own : Expr) : Expr :=
  .sequence ((if caseSensitive then [] else [.empty]) ++
    [.look .textStart, own, .look .textEnd])

theorem expr_concat (context : Context) (items : List Ast) :
    (Ast.concat items).expr context =
      (exprsOf context items).map fun (exprs, after) => (.sequence exprs, after) := by
  rw [Ast.expr]
  cases exprsOf context items with
  | error fault => rfl
  | ok found => rfl

theorem exprsOf_flags_cons (context : Context) (settings : List FlagSetting) (later : List Ast) :
    exprsOf context (.flags settings :: later) =
      (exprsOf { context with flags := context.flags.setAll settings } later).map
        fun (exprs, after) => (.empty :: exprs, after) := by
  rw [exprsOf, Ast.expr, Outcome.ok_bind]
  dsimp only
  cases exprsOf { context with flags := context.flags.setAll settings } later with
  | error fault => rfl
  | ok found => rfl

/-- The expression of an anchored pattern is the pattern's own one between the ends. -/
theorem expr_anchoredAst (body : Ast) :
    (anchoredAst caseSensitive body).expr ⟨.initial, 0, []⟩ =
      (body.expr ⟨patternFlags caseSensitive, 0, []⟩).map fun (own, inner) =>
        (anchoredExpr caseSensitive own, { inner with flags := patternFlags caseSensitive }) := by
  have wrapped : ∀ flags : Flags, flags.multiLine = false →
      exprsOf ⟨flags, 0, []⟩
          [.assertion .lineStart, .group (.uncaptured []) body, .assertion .lineEnd] =
        (body.expr ⟨flags, 0, []⟩).map fun (own, inner) =>
          ([.look .textStart, own, .look .textEnd], { inner with flags }) := by
    intro flags singleLine
    simp only [exprsOf, Ast.expr, Assertion.look, singleLine, Outcome.ok_bind, Flags.setAll,
      List.foldl_nil]
    cases body.expr ⟨flags, 0, []⟩ with
    | error fault => rfl
    | ok found =>
        simp [Context.leave, singleLine]
  cases caseSensitive with
  | true =>
      change (Ast.concat [.assertion .lineStart, .group (.uncaptured []) body,
        .assertion .lineEnd]).expr _ = _
      rw [expr_concat, wrapped Flags.initial rfl]
      change _ = (body.expr ⟨Flags.initial, 0, []⟩).map _
      cases body.expr ⟨Flags.initial, 0, []⟩ with
      | error fault => rfl
      | ok found => rfl
  | false =>
      change (Ast.concat [.flags [⟨.caseInsensitive, true⟩], .assertion .lineStart,
        .group (.uncaptured []) body, .assertion .lineEnd]).expr _ = _
      rw [expr_concat, exprsOf_flags_cons]
      change ((exprsOf ⟨patternFlags false, 0, []⟩ _).map _).map _ = _
      rw [wrapped (patternFlags false) rfl]
      cases body.expr ⟨patternFlags false, 0, []⟩ with
      | error fault => rfl
      | ok found => rfl

theorem isMatch_anchoredExpr_iff {own : Expr} {names : List (String × Nat)} {text : String} :
    Regex.isMatch ⟨anchoredExpr caseSensitive own, names⟩ text = true ↔
      Regex.MatchesWhole ⟨own, names⟩ text := by
  rw [← isMatch_between_ends_iff, isMatch_iff, isMatch_iff]
  cases caseSensitive with
  | true => exact Iff.rfl
  | false =>
      simp only [anchoredExpr, Bool.false_eq_true, if_false, List.singleton_append,
        Expr.reaches_sequence_empty_cons_iff]

theorem fits_of_fits_anchoredExpr {own : Expr}
    (fits : (anchoredExpr caseSensitive own).fits = true) : own.fits = true := by
  cases caseSensitive with
  | true => exact fits_of_fits_between fits
  | false => exact fits_of_fits_between fits

/-- An anchored pattern that compiles has a pattern that compiles by itself and matches the whole of
just those texts in which the anchored one is found, unless it closes a group it did not open. -/
theorem compile_anchored {regex : Regex}
    (compiled : Regex.compile (anchored pattern caseSensitive) = .ok regex) :
    Ast.parse pattern.toList = .error .unopenedGroup ∨
      ∃ own, Regex.compileUnder (!caseSensitive) pattern = .ok own ∧
        ∀ text, regex.isMatch text = true ↔ own.MatchesWhole text := by
  rcases Outcome.bind_eq_ok_iff.mp compiled with ⟨ast, parsed, compiled⟩
  rcases Outcome.bind_eq_ok_iff.mp compiled with ⟨⟨expr, context⟩, meant, compiled⟩
  simp only at compiled
  split at compiled
  case isFalse => cases compiled
  case isTrue fits =>
      cases compiled
      rcases parse_of_parse_anchored parsed with unopened | ⟨body, parsedOwn, rfl⟩
      · exact Or.inl unopened
      · rw [expr_anchoredAst] at meant
        rcases Outcome.map_eq_ok_iff.mp meant with ⟨⟨own, inner⟩, meantOwn, equal⟩
        cases equal
        refine Or.inr ⟨⟨own, inner.names⟩, ?_, ?_⟩
        · rw [Regex.compileUnder, parsedOwn, Outcome.ok_bind]
          change (body.expr ⟨patternFlags caseSensitive, 0, []⟩ >>= _) = _
          rw [meantOwn, Outcome.ok_bind]
          exact if_pos (fits_of_fits_anchoredExpr fits)
        · exact fun text => isMatch_anchoredExpr_iff

end PhraseRules.Matcher
