import PhraseRules.Proofs.Distinct
import PhraseRules.Proofs.Matcher.Anchored
import PhraseRules.Proofs.Regex.Words
import PhraseRules.Proofs.Text.Casing

/-!
# Patterns that list words

A pattern that is expanded to a list of texts is a regular expression that lists them: it is read
along with the expansion, the branches as sums and the items as products of what they stand for.
-/

namespace PhraseRules.Matcher

open PhraseRules.Regex
open PhraseRules.Text
open PhraseRules.Unicode

/-! ## Values as languages -/

/-- The language of the listed words. -/
def languageOf (values : List (List Char)) : WordLanguage :=
  fun word => word ∈ values

theorem mem_languageOf_iff {values : List (List Char)} {word : List Char} :
    word ∈ languageOf values ↔ word ∈ values :=
  Iff.rfl

theorem languageOf_append (first second : List (List Char)) :
    languageOf (first ++ second) = languageOf first + languageOf second := by
  ext word
  rw [Language.mem_add, mem_languageOf_iff, mem_languageOf_iff, mem_languageOf_iff,
    List.mem_append]

theorem languageOf_productOf (first second : List (List Char)) :
    languageOf (productOf first second) = languageOf first * languageOf second := by
  ext word
  rw [Language.mem_mul, mem_languageOf_iff, productOf, List.mem_flatMap]
  simp only [List.mem_map, mem_languageOf_iff]

theorem languageOf_singleton (word : List Char) : languageOf [word] = {word} := by
  ext other
  rw [mem_languageOf_iff, List.mem_singleton]
  rfl

theorem languageOf_blank : languageOf [[]] = 1 :=
  languageOf_singleton []

theorem languageOf_nil : languageOf [] = 0 := by
  ext word
  simp [mem_languageOf_iff, Language.notMem_zero]

theorem unlessTooMany_eq_some_iff {values result : List (List Char)} :
    unlessTooMany values = some result ↔
      values.length ≤ greatestValueCount ∧ result = values := by
  rw [unlessTooMany]
  split
  case isTrue many => simp [Nat.not_le_of_lt many]
  case isFalse few => simp [Nat.le_of_not_lt few, eq_comm]

theorem unlessTooMany_bind_eq_some {values : List (List Char)} {α : Type}
    {next : List (List Char) → Option α} {result : α}
    (expanded : (unlessTooMany values >>= next) = some result) : next values = some result := by
  rcases Option.bind_eq_some_iff.mp expanded with ⟨passed, passed_eq, continued⟩
  rcases unlessTooMany_eq_some_iff.mp passed_eq with ⟨-, rfl⟩
  exact continued

/-! ## Escapes -/

/-- Every backslash stands before a character that it makes stand for itself in an expression. -/
def hasLiteralEscapes : List Char → Bool
  | '\\' :: c :: rest => isEscapable c && hasLiteralEscapes rest
  | _ :: rest => hasLiteralEscapes rest
  | [] => true

theorem hasLiteralEscapes_cons {c : Char} {rest : List Char} (noEscape : c ≠ '\\') :
    hasLiteralEscapes (c :: rest) = hasLiteralEscapes rest := by
  rw [hasLiteralEscapes]
  exact fun _ _ isEscape _ => noEscape isEscape

theorem isAlphanum_of_isEscapable {c : Char} (escapable : isEscapable c = true) :
    c.isAlphanum = false := by
  rw [isEscapable, Bool.or_eq_true] at escapable
  rcases escapable with isMeta | plain
  · have none : metaCharacters.all (!·.isAlphanum) = true := by decide +kernel
    rw [List.contains_iff_mem] at isMeta
    simpa using List.all_eq_true.mp none c isMeta
  · simp only [Bool.and_eq_true, Bool.not_eq_true'] at plain
    exact plain.1.1.2

theorem readEscape_of_isEscapable {extended : Bool} {c : Char} {rest : List Char}
    (escapable : isEscapable c = true) :
    readEscape extended (c :: rest) = .ok (.literal ⟨c, false⟩, rest) := by
  have other := isAlphanum_of_isEscapable escapable
  have noDigit : ¬c.isDigit = true := by
    rw [Char.isAlphanum, Bool.or_eq_false_iff] at other
    simp [other.2]
  have noHex : ¬(c = 'x' ∨ c = 'u' ∨ c = 'U') := by
    rintro (rfl | rfl | rfl) <;> cases other
  have noProperty : ¬(c = 'p' ∨ c = 'P') := by
    rintro (rfl | rfl) <;> cases other
  rw [readEscape.eq_def]
  simp only
  rw [if_neg noDigit, if_neg noHex, if_neg noProperty, if_pos escapable]

/-- An escaped character is read as itself. -/
theorem readStep_of_isEscapable {items : List Ast} {c : Char} {rest : List Char}
    (escapable : isEscapable c = true) :
    readStep false items ('\\' :: c :: rest) =
      .ok (.items (.literal ⟨c, false⟩ :: items) rest) := by
  change (readEscape false (c :: rest) >>= _) = _
  rw [readEscape_of_isEscapable escapable]
  rfl

/-- A plain character is read as itself. -/
theorem readStep_of_plain {items : List Ast} {c : Char} {rest : List Char}
    (noParenthesis : c ≠ '(' ∧ c ≠ ')') (noBranch : c ≠ '|') (noEscape : c ≠ '\\')
    (plain : operators.contains c = false) :
    readStep false items (c :: rest) = .ok (.items (.literal ⟨c, false⟩ :: items) rest) := by
  have differs : ∀ operator ∈ operators, c ≠ operator := by
    rintro operator member rfl
    rw [← Bool.not_eq_true, List.contains_iff_mem] at plain
    exact plain member
  have atom : readAtom false (c :: rest) = .ok (.literal ⟨c, false⟩, rest) := by
    rw [readAtom]
    · exact noEscape
    · exact differs '.' (by decide)
    · exact differs '^' (by decide)
    · exact differs '$' (by decide)
  rw [readStep, atom]
  · rfl
  · exact fun impossible => by cases impossible
  · exact fun _ equal => noParenthesis.2 (List.cons.inj equal).1
  · exact fun _ equal => noBranch (List.cons.inj equal).1
  · exact fun _ equal => noParenthesis.1 (List.cons.inj equal).1
  · exact fun _ equal => differs '[' (by decide) (List.cons.inj equal).1
  · exact fun _ equal => differs '?' (by decide) (List.cons.inj equal).1
  · exact fun _ equal => differs '*' (by decide) (List.cons.inj equal).1
  · exact fun _ equal => differs '+' (by decide) (List.cons.inj equal).1
  · exact fun _ equal => differs '\x7b' (by decide) (List.cons.inj equal).1

/-! ## Reading along -/

/--
What is read of an expression stands for the values that the expansion has so far: the branches for
those of the complete alternatives, the items for those of the current one.
-/
structure StandsFor (branches items : List Ast) (complete current : List (List Char)) : Prop where
  branches_list : ∃ languages, AllList branches languages ∧ languages.sum = languageOf complete
  items_list : ∃ languages, AllList items.reverse languages ∧ languages.prod = languageOf current

namespace StandsFor

variable {branches items : List Ast} {complete current : List (List Char)}

theorem start : StandsFor [] [] [] [[]] where
  branches_list := ⟨[], .nil, languageOf_nil.symm⟩
  items_list := ⟨[], .nil, languageOf_blank.symm⟩

theorem item (stands : StandsFor branches items complete current) {ast : Ast}
    {values : List (List Char)} (lists : ast.Lists (languageOf values)) :
    StandsFor branches (ast :: items) complete (productOf current values) where
  branches_list := stands.branches_list
  items_list := by
    rcases stands.items_list with ⟨languages, all, prod_eq⟩
    refine ⟨languages ++ [languageOf values], ?_, ?_⟩
    · rw [List.reverse_cons]
      exact List.rel_append all (.cons lists .nil)
    · rw [List.prod_append, List.prod_singleton, prod_eq, languageOf_productOf]

theorem literal (stands : StandsFor branches items complete current) (c : Char) :
    StandsFor branches (.literal ⟨c, false⟩ :: items) complete (productOf current [[c]]) := by
  apply stands.item
  rw [languageOf_singleton]
  exact Ast.lists_literal c

theorem branch (stands : StandsFor branches items complete current) :
    StandsFor (.ofItems items.reverse :: branches) [] (complete ++ current) [[]] where
  branches_list := by
    rcases stands.branches_list with ⟨before, allBefore, sum_eq⟩
    rcases stands.items_list with ⟨languages, all, prod_eq⟩
    refine ⟨languages.prod :: before, .cons (Ast.lists_ofItems all) allBefore, ?_⟩
    rw [List.sum_cons, prod_eq, sum_eq, languageOf_append, add_comm]
  items_list := start.items_list

theorem close (stands : StandsFor branches items complete current) :
    (closeBranches branches items).Lists (languageOf (complete ++ current)) := by
  rcases stands.branch.branches_list with ⟨languages, all, sum_eq⟩
  have lists := Ast.lists_ofBranches (by simp) (List.rel_reverse all)
  rwa [List.sum_reverse, sum_eq] at lists

end StandsFor

/-- What is passed over before a group that is no special one. -/
theorem readOpening_of_plain {rest : List Char} (plain : ∀ behind, rest ≠ '?' :: behind) :
    readOpening false rest = .ok (.group .numbered rest) := by
  change openGroup rest = _
  rw [openGroup]
  all_goals exact fun _ equal => plain _ equal

/-- What stands in a group is expanded up to the closing parenthesis, and its values go behind those
so far. -/
theorem readValues_inside_eq_some {fuel : Nat} {complete current : List (List Char)}
    {inner : List Char} {result : List (List Char) × List Char}
    (expanded : (readValues fuel [] [[]] inner >>= fun read =>
      match read with
      | (inside, ')' :: remaining) =>
          unlessTooMany (productOf current inside) >>= (readValues fuel complete · remaining)
      | _ => none) = some result) :
    ∃ inside remaining, readValues fuel [] [[]] inner = some (inside, ')' :: remaining) ∧
      readValues fuel complete (productOf current inside) remaining = some result := by
  rcases Option.bind_eq_some_iff.mp expanded with ⟨⟨inside, left⟩, expandedInside, expandedOn⟩
  split at expandedOn
  case h_1 remaining equal =>
      cases equal
      exact ⟨inside, remaining, expandedInside, unlessTooMany_bind_eq_some expandedOn⟩
  case h_2 => cases expandedOn

/-- A group is expanded to the values of what stands in it, each behind each of those so far. -/
theorem readValues_parenthesis_eq_some {fuel : Nat} {complete current : List (List Char)}
    {behind : List Char} {result : List (List Char) × List Char}
    (expanded : readValues (fuel + 1) complete current ('(' :: behind) = some result) :
    ∃ inner inside remaining,
      (behind = '?' :: ':' :: inner ∨ behind = inner ∧ ∀ rest, behind ≠ '?' :: rest) ∧
        readValues fuel [] [[]] inner = some (inside, ')' :: remaining) ∧
        readValues fuel complete (productOf current inside) remaining = some result := by
  rw [readValues.eq_def] at expanded
  simp only at expanded
  split at expanded
  case h_1 inner =>
      rcases readValues_inside_eq_some expanded with ⟨inside, remaining, both⟩
      exact ⟨inner, inside, remaining, Or.inl rfl, both⟩
  case h_2 => cases expanded
  case h_3 noGroup noFlags =>
      rcases readValues_inside_eq_some expanded with ⟨inside, remaining, both⟩
      exact ⟨behind, inside, remaining, Or.inr ⟨rfl, fun _ => noFlags _⟩, both⟩

/-- What is read of an opening parenthesis is a group that is no special one. -/
theorem exists_kind_of_opening {after behind inner : List Char} (items : List Ast)
    (ends : after = [] ∨ ∃ behind, after = ')' :: behind)
    (opening : behind = '?' :: ':' :: inner ∨ behind = inner ∧ ∀ rest, behind ≠ '?' :: rest) :
    ∃ kind,
      readStep false items ('(' :: behind ++ after) = .ok (.enter kind (inner ++ after)) ∧
        extendedInside false kind = false ∧
        ∀ body words, body.Lists words → (Ast.group kind body).Lists words := by
  rcases opening with rfl | ⟨rfl, plain⟩
  · exact ⟨.uncaptured [], rfl, rfl, fun _ _ lists => lists.group_uncaptured⟩
  · have plainAll : ∀ rest, behind ++ after ≠ '?' :: rest := by
      intro rest equal
      cases behind with
      | nil =>
          rcases ends with rfl | ⟨later, rfl⟩
          · cases equal
          · cases equal
      | cons c later =>
          cases equal
          exact plain _ rfl
    refine ⟨.numbered, ?_, rfl, fun _ _ lists => lists.group_numbered⟩
    change (readOpening false (behind ++ after) >>= _) = _
    rw [readOpening_of_plain plainAll]
    rfl

/-- A pattern up to `rest`, whatever stands `after` it, is read as an expression that lists the
values. -/
structure ReadsAlong (after : List Char) (branches items : List Ast) (pattern : List Char)
    (values : List (List Char)) (rest : List Char) : Prop where
  literal : hasLiteralEscapes rest = true
  exists_ast : ∃ ast,
    ReadsInside false branches items (pattern ++ after) ast (rest ++ after) ∧
      ast.Lists (languageOf values)

namespace ReadsAlong

variable {after behind pattern rest : List Char} {branches items : List Ast} {ast : Ast}
  {complete current values : List (List Char)}

theorem stop (stands : StandsFor branches items complete current)
    (literal : hasLiteralEscapes pattern = true)
    (step : readStep false items (pattern ++ after) = .ok (.stop (pattern ++ after))) :
    ReadsAlong after branches items pattern (complete ++ current) pattern :=
  ⟨literal, _, (readsInside_stop_iff step).mpr ⟨rfl, rfl⟩, stands.close⟩

theorem branch
    (onward : ReadsAlong after (.ofItems items.reverse :: branches) [] behind values rest) :
    ReadsAlong after branches items ('|' :: behind) values rest := by
  rcases onward with ⟨literal, ast, reads, lists⟩
  exact ⟨literal, ast, .branch rfl reads, lists⟩

theorem item
    (step : readStep false items (pattern ++ after) = .ok (.items (ast :: items) (behind ++ after)))
    (onward : ReadsAlong after branches (ast :: items) behind values rest) :
    ReadsAlong after branches items pattern values rest := by
  rcases onward with ⟨literal, ast, reads, lists⟩
  exact ⟨literal, ast, .items step reads, lists⟩

theorem group {kind : GroupKind} {inner remaining : List Char} {body : Ast}
    (step : readStep false items (pattern ++ after) = .ok (.enter kind (inner ++ after)))
    (keeps : extendedInside false kind = false)
    (inside : ReadsInside false [] [] (inner ++ after) body (')' :: remaining ++ after))
    (onward : ReadsAlong after branches (.group kind body :: items) remaining values rest) :
    ReadsAlong after branches items pattern values rest := by
  rcases onward with ⟨literal, ast, reads, lists⟩
  refine ⟨literal, ast, (readsInside_enter_iff kind step).mpr ?_, lists⟩
  refine ⟨body, remaining ++ after, ?_, reads⟩
  rw [keeps]
  exact inside

end ReadsAlong

/--
An expansion reads a pattern as an expression does, whatever stands behind the pattern, as long as
that ends the group.  What it reads lists the values.
-/
theorem readsAlong_of_readValues {after : List Char}
    (ends : after = [] ∨ ∃ behind, after = ')' :: behind) {fuel : Nat}
    {complete current values : List (List Char)} {pattern rest : List Char}
    {branches items : List Ast}
    (expanded : readValues fuel complete current pattern = some (values, rest))
    (literal : hasLiteralEscapes pattern = true)
    (stands : StandsFor branches items complete current) :
    ReadsAlong after branches items pattern values rest := by
  induction fuel generalizing complete current values pattern rest branches items with
  | zero => cases expanded
  | succ fuel induction =>
      have original := expanded
      rw [readValues.eq_def] at expanded
      simp only at expanded
      split at expanded
      case h_1 =>
          cases unlessTooMany_bind_eq_some expanded
          rcases ends with rfl | ⟨behind, rfl⟩
          · exact .stop stands literal rfl
          · exact .stop stands literal rfl
      case h_2 behind =>
          cases unlessTooMany_bind_eq_some expanded
          exact .stop stands literal rfl
      case h_3 behind =>
          exact .branch (induction (unlessTooMany_bind_eq_some expanded) literal stands.branch)
      case h_4 behind =>
          -- what stands in the group is read along first, then what stands behind it
          rcases readValues_parenthesis_eq_some original with
            ⟨inner, inside, remaining, opening, expandedInside, expandedOn⟩
          have literalInner : hasLiteralEscapes inner = true := by
            rw [hasLiteralEscapes_cons (by decide)] at literal
            rcases opening with rfl | ⟨rfl, -⟩
            · exact literal
            · exact literal
          rcases exists_kind_of_opening items ends opening with ⟨kind, step, keeps, groups⟩
          rcases induction expandedInside literalInner .start with
            ⟨literalOn, body, readsBody, listsBody⟩
          rw [hasLiteralEscapes_cons (by decide)] at literalOn
          exact .group step keeps readsBody
            (induction expandedOn literalOn (stands.item (groups _ _ listsBody)))
      case h_5 behind =>
          split at expanded
          case h_1 => cases expanded
          case h_2 c behind =>
              split at expanded
              case isFalse => cases expanded
              case isTrue =>
                  rw [hasLiteralEscapes, Bool.and_eq_true] at literal
                  exact .item (readStep_of_isEscapable literal.1)
                    (induction expanded literal.2 (stands.literal c))
      case h_6 c behind noEnd noBranch noGroup noEscape =>
          split at expanded
          case isTrue => cases expanded
          case isFalse plain =>
              rw [hasLiteralEscapes_cons noEscape] at literal
              refine .item (readStep_of_plain ⟨noGroup, noEnd⟩ noBranch noEscape ?_)
                (induction expanded literal (stands.literal c))
              simpa using plain

/-- A pattern is expanded to values that an expression read from it lists. -/
theorem exists_body_of_expand? {pattern : String} {values : List String}
    (expanded : expand? pattern = some values)
    (literal : hasLiteralEscapes pattern.toList = true) :
    ∃ body chars, ReadsInside false [] [] (pattern.toList ++ closing) body closing ∧
      ReadsInside false [] [] pattern.toList body [] ∧ body.Lists (languageOf chars) ∧
        ∀ value, value ∈ values ↔ value.toList ∈ chars := by
  rcases Option.bind_eq_some_iff.mp expanded with ⟨⟨chars, rest⟩, read, expanded⟩
  split at expanded
  case h_1 equal =>
      cases equal
      cases expanded
      have ends : closing = [] ∨ ∃ behind, closing = ')' :: behind := Or.inr ⟨['$'], rfl⟩
      rcases readsAlong_of_readValues ends read literal .start with ⟨-, body, reads, lists⟩
      rcases reads.of_append_closing with ⟨own, own_eq, readsOwn⟩ | impossible
      · have own_nil : own = [] := List.append_left_eq_self.mp own_eq.symm
        refine ⟨body, chars, reads, own_nil ▸ readsOwn, lists, ?_⟩
        intro value
        rw [distinct, mem_distinctBeyond_iff, List.mem_map]
        constructor
        · rintro ⟨⟨word, member, rfl⟩, -⟩
          rwa [String.toList_ofList]
        · intro member
          exact ⟨⟨value.toList, member, String.ofList_toList⟩, List.not_mem_nil⟩
      · cases impossible
  case h_2 => cases expanded

/-! ## Compiling -/

theorem matchesWhole_iff_of_lists {expr : Expr} {names : List (String × Nat)}
    {same : Char → Char → Prop} {words : WordLanguage} (lists : expr.Lists same words)
    {text : String} :
    Regex.MatchesWhole ⟨expr, names⟩ text ↔ ∃ word ∈ words, List.Forall₂ same word text.toList := by
  have whole := lists.reaches_size_iff text.toList.toArray
  rwa [List.size_toArray] at whole

variable {pattern : String}

/-- A pattern that lists words compiles by itself, if it is neither too deep nor too large, to an
expression that matches the whole of just those texts that are one of the words. -/
theorem compileUnder_of_lists {body : Ast} {words : WordLanguage}
    (reads : ReadsInside false [] [] pattern.toList body []) (lists : body.Lists words)
    (caseSensitive : Bool) :
    (body.depth > greatestDepth ∧
        Regex.compileUnder (!caseSensitive) pattern = .error .nestedTooDeeply) ∨
      Regex.compileUnder (!caseSensitive) pattern = .error .tooLarge ∨
      ∃ own, Regex.compileUnder (!caseSensitive) pattern = .ok own ∧
        ∀ text, own.MatchesWhole text ↔
          ∃ word ∈ words, List.Forall₂ (patternFlags caseSensitive).Admits word text.toList := by
  rcases lists.exists_expr ⟨patternFlags caseSensitive, 0, []⟩ rfl with
    ⟨own, groups, own_eq, listed⟩
  have parsed := parse_eq_of_groupNames_eq_nil reads lists.groupNames_eq
  by_cases deep : body.depth > greatestDepth
  · rw [if_pos deep] at parsed
    refine Or.inl ⟨deep, ?_⟩
    rw [Regex.compileUnder, parsed]
    rfl
  · rw [if_neg deep] at parsed
    have compiled : Regex.compileUnder (!caseSensitive) pattern =
        if own.fits then .ok ⟨own, []⟩ else .error .tooLarge := by
      rw [Regex.compileUnder, parsed, Outcome.ok_bind]
      change (body.expr ⟨patternFlags caseSensitive, 0, []⟩ >>= _) = _
      rw [own_eq]
      rfl
    cases fits : own.fits with
    | false =>
        rw [fits] at compiled
        exact Or.inr (Or.inl compiled)
    | true =>
        rw [fits] at compiled
        exact Or.inr (Or.inr ⟨_, compiled, fun text => matchesWhole_iff_of_lists listed⟩)

/-- The same holds of the anchored pattern, which is found in just those texts. -/
theorem compile_anchored_of_lists {body : Ast} {words : WordLanguage}
    (reads : ReadsInside false [] [] (pattern.toList ++ closing) body closing)
    (lists : body.Lists words) (caseSensitive : Bool) :
    (body.depth + 2 > greatestDepth ∧
        Regex.compile (anchored pattern caseSensitive) = .error .nestedTooDeeply) ∨
      Regex.compile (anchored pattern caseSensitive) = .error .tooLarge ∨
      ∃ regex, Regex.compile (anchored pattern caseSensitive) = .ok regex ∧
        ∀ text, regex.isMatch text = true ↔
          ∃ word ∈ words, List.Forall₂ (patternFlags caseSensitive).Admits word text.toList := by
  rcases lists.exists_expr ⟨patternFlags caseSensitive, 0, []⟩ rfl with
    ⟨own, groups, own_eq, listed⟩
  have readsAll : ReadsInside false [] [] (anchored pattern caseSensitive).toList
      (anchoredAst caseSensitive body) [] :=
    readsInside_anchored_iff.mpr ⟨body, ['$'], reads, readsInside_lineEnd_iff.mpr ⟨rfl, rfl⟩⟩
  have parsed := parse_eq_of_groupNames_eq_nil readsAll
    ((groupNames_anchoredAst body).trans lists.groupNames_eq)
  rw [depth_anchoredAst] at parsed
  by_cases deep : body.depth + 2 > greatestDepth
  · rw [if_pos deep] at parsed
    refine Or.inl ⟨deep, ?_⟩
    rw [Regex.compile, parsed]
    rfl
  · rw [if_neg deep] at parsed
    have compiled : Regex.compile (anchored pattern caseSensitive) =
        if (anchoredExpr caseSensitive own).fits then .ok ⟨anchoredExpr caseSensitive own, []⟩
        else .error .tooLarge := by
      rw [Regex.compile, parsed, Outcome.ok_bind, expr_anchoredAst, own_eq]
      rfl
    cases fits : (anchoredExpr caseSensitive own).fits with
    | false =>
        rw [fits] at compiled
        exact Or.inr (Or.inl compiled)
    | true =>
        rw [fits] at compiled
        refine Or.inr (Or.inr ⟨_, compiled, fun text => ?_⟩)
        exact isMatch_anchoredExpr_iff.trans (matchesWhole_iff_of_lists listed)

/-- A pattern that is not expanded makes a matcher of its anchored expression. -/
theorem compile_eq_of_expand?_eq_none (nonempty : pattern ≠ "") (unlisted : expand? pattern = none)
    (caseSensitive : Bool) :
    compile pattern true caseSensitive =
      match Regex.compile (anchored pattern caseSensitive) with
      | .ok regex => .ok ⟨pattern, true, caseSensitive, .expression regex⟩
      | .error fault => .error (.invalidRegex pattern fault) := by
  have notEmpty : pattern.isEmpty = false := by simpa using nonempty
  rw [compile, if_pos rfl, regexTest, notEmpty, if_neg Bool.false_ne_true, unlisted]
  dsimp only
  cases Regex.compile (anchored pattern caseSensitive) with
  | error fault => rfl
  | ok regex => rfl

/-- The expression is refused for its depth or its size. -/
def IsRefused (outcome : Except Fault Regex) : Prop :=
  outcome = .error .nestedTooDeeply ∨ outcome = .error .tooLarge

theorem exists_mem_languageOf_iff {values : List String} {chars : List (List Char)}
    (mem_iff : ∀ value : String, value ∈ values ↔ value.toList ∈ chars) {holds : List Char → Prop} :
    (∃ word ∈ languageOf chars, holds word) ↔ ∃ value ∈ values, holds value.toList := by
  constructor
  · rintro ⟨word, member, holdsOf⟩
    refine ⟨String.ofList word, (mem_iff _).mpr ?_, ?_⟩
    · rwa [String.toList_ofList]
    · rwa [String.toList_ofList]
  · rintro ⟨value, member, holdsOf⟩
    exact ⟨value.toList, (mem_iff _).mp member, holdsOf⟩

variable {values : List String}

/-- A pattern that is expanded to values compiles by itself, if it is not refused, to an expression
that matches the whole of just those texts that are one of the values. -/
theorem compileUnder_of_expand? (expanded : expand? pattern = some values)
    (literal : hasLiteralEscapes pattern.toList = true) (caseSensitive : Bool) :
    IsRefused (Regex.compileUnder (!caseSensitive) pattern) ∨
      ∃ own, Regex.compileUnder (!caseSensitive) pattern = .ok own ∧
        ∀ text, own.MatchesWhole text ↔ ∃ value ∈ values,
          List.Forall₂ (patternFlags caseSensitive).Admits value.toList text.toList := by
  rcases exists_body_of_expand? expanded literal with ⟨body, chars, -, reads, lists, mem_iff⟩
  rcases compileUnder_of_lists reads lists caseSensitive with
    ⟨-, deep⟩ | large | ⟨own, own_eq, matchesWhole_iff⟩
  · exact Or.inl (Or.inl deep)
  · exact Or.inl (Or.inr large)
  · exact Or.inr ⟨own, own_eq, fun text =>
      (matchesWhole_iff text).trans (exists_mem_languageOf_iff mem_iff)⟩

/-- The same holds of the anchored pattern, which is found in just those texts. -/
theorem compile_anchored_of_expand? (expanded : expand? pattern = some values)
    (literal : hasLiteralEscapes pattern.toList = true) (caseSensitive : Bool) :
    IsRefused (Regex.compile (anchored pattern caseSensitive)) ∨
      ∃ regex, Regex.compile (anchored pattern caseSensitive) = .ok regex ∧
        ∀ text, regex.isMatch text = true ↔ ∃ value ∈ values,
          List.Forall₂ (patternFlags caseSensitive).Admits value.toList text.toList := by
  rcases exists_body_of_expand? expanded literal with ⟨body, chars, reads, -, lists, mem_iff⟩
  rcases compile_anchored_of_lists reads lists caseSensitive with
    ⟨-, deep⟩ | large | ⟨regex, regex_eq, isMatch_iff⟩
  · exact Or.inl (Or.inl deep)
  · exact Or.inl (Or.inr large)
  · exact Or.inr ⟨regex, regex_eq, fun text =>
      (isMatch_iff text).trans (exists_mem_languageOf_iff mem_iff)⟩

/-- The value and the text are one, in the sense of a matcher that lists values. -/
def IsSameText (caseSensitive : Bool) (value text : String) : Prop :=
  if caseSensitive then value = text else lowercase value = lowercase text

/-- A pattern that is expanded to values makes a matcher that accepts just what is one of them. -/
theorem accepts_iff_of_expand? (nonempty : pattern ≠ "") (expanded : expand? pattern = some values)
    (caseSensitive : Bool) :
    ∃ matcher, compile pattern true caseSensitive = .ok matcher ∧
      ∀ text, matcher.accepts text = true ↔
        ∃ value ∈ values, IsSameText caseSensitive value text := by
  have notEmpty : pattern.isEmpty = false := by simpa using nonempty
  refine ⟨⟨pattern, true, caseSensitive,
    .oneOf (if caseSensitive then values else values.map lowercase)⟩, ?_, ?_⟩
  · rw [compile, regexTest, notEmpty, expanded]
    rfl
  · intro text
    rw [accepts]
    cases caseSensitive with
    | true => simp [IsSameText]
    | false => simp [IsSameText]

/-- Case variants and lowercase come to the same for texts that agree in case. -/
theorem forall₂_admits_iff_isSameText {caseSensitive : Bool} {value text : String}
    (agree : caseSensitive = true ∨ AgreeInCase value text) :
    List.Forall₂ (patternFlags caseSensitive).Admits value.toList text.toList ↔
      IsSameText caseSensitive value text := by
  cases caseSensitive with
  | true =>
      change List.Forall₂ (fun written found => written = found) _ _ ↔ value = text
      rw [List.forall₂_eq_eq_eq, String.toList_inj]
  | false =>
      rcases agree with impossible | agree
      · cases impossible
      · exact forall₂_mem_caseVariants_iff_lowercase_eq agree

/--
A pattern that is expanded to values makes a matcher that accepts just the texts that are one of
them, or have the same lowercase where case does not count.  The anchored pattern compiles as well,
unless it is refused for its depth or its size.  It is found in just the texts that are one of the
values character by character, where a character stands for its case variants if case does not
count.  So it agrees with the matcher on all texts if case counts, and else on those that agree in
case with the values, such as ASCII texts with ASCII values.
-/
theorem anchored_agrees_of_expand? (nonempty : pattern ≠ "")
    (expanded : expand? pattern = some values)
    (literal : hasLiteralEscapes pattern.toList = true) (caseSensitive : Bool) :
    ∃ matcher, compile pattern true caseSensitive = .ok matcher ∧
      (∀ text, matcher.accepts text = true ↔
        ∃ value ∈ values, IsSameText caseSensitive value text) ∧
      (IsRefused (Regex.compile (anchored pattern caseSensitive)) ∨
        ∃ regex, Regex.compile (anchored pattern caseSensitive) = .ok regex ∧
          (∀ text, regex.isMatch text = true ↔ ∃ value ∈ values,
            List.Forall₂ (patternFlags caseSensitive).Admits value.toList text.toList) ∧
          ∀ text, caseSensitive = true ∨ (∀ value ∈ values, AgreeInCase value text) →
            (regex.isMatch text = true ↔ matcher.accepts text = true)) := by
  rcases accepts_iff_of_expand? nonempty expanded caseSensitive with
    ⟨matcher, matcher_eq, accepts_iff⟩
  refine ⟨matcher, matcher_eq, accepts_iff, ?_⟩
  rcases compile_anchored_of_expand? expanded literal caseSensitive with
    refused | ⟨regex, regex_eq, isMatch_iff⟩
  · exact Or.inl refused
  · refine Or.inr ⟨regex, regex_eq, isMatch_iff, ?_⟩
    intro text agree
    rw [isMatch_iff, accepts_iff]
    refine exists_congr fun value => and_congr_right fun member => ?_
    exact forall₂_admits_iff_isSameText (agree.imp_right fun agree => agree value member)

/-- Two words are found in the same ASCII texts in either way. -/
theorem anchored_agrees_of_expand?_of_two_words :
    "de|del" ≠ "" ∧ expand? "de|del" = some ["de", "del"] ∧
      hasLiteralEscapes "de|del".toList = true ∧
      ∃ matcher regex, compile "de|del" true false = .ok matcher ∧
        Regex.compile (anchored "de|del" false) = .ok regex ∧
          ∀ text : String, (∀ c ∈ text.toList, c.toNat < 128) →
            (regex.isMatch text = true ↔ matcher.accepts text = true) := by
  have nonempty : "de|del" ≠ "" := by decide
  have expanded : expand? "de|del" = some ["de", "del"] := by decide +kernel
  have literal : hasLiteralEscapes "de|del".toList = true := by decide +kernel
  refine ⟨nonempty, expanded, literal, ?_⟩
  rcases anchored_agrees_of_expand? nonempty expanded literal false with
    ⟨matcher, matcher_eq, -, refused | ⟨regex, regex_eq, -, agree⟩⟩
  · have notRefused : ¬IsRefused (Regex.compile (anchored "de|del" false)) := by
      unfold IsRefused
      decide +kernel
    exact absurd refused notRefused
  · refine ⟨matcher, regex, matcher_eq, regex_eq, fun text isAscii => agree text (Or.inr ?_)⟩
    have valuesAscii :
        (["de", "del"].all fun value => value.toList.all fun c => c.toNat < 128) = true := by
      decide +kernel
    simp only [List.all_eq_true, decide_eq_true_eq] at valuesAscii
    exact fun value member => agreeInCase_of_ascii (valuesAscii value member) isAscii

/-- A long s is a case variant of the letter, but is in lowercase itself. -/
theorem anchored_disagrees_of_long_s :
    expand? "s" = some ["s"] ∧
      (compile "s" true false).map (fun matcher => matcher.accepts "ſ") = .ok false ∧
      (Regex.compile (anchored "s" false)).map (fun regex => regex.isMatch "ſ") = .ok true := by
  decide +kernel

end PhraseRules.Matcher
