import PhraseRules.Proofs.Matcher.Literal

/-!
# Texts with forms between them

What is written for a reference in a literal text is a group of forms between two escaped texts.
The pattern is expanded to one value for each form, unless there are too many forms; then it is
compiled to an expression that lists the same words.  Either way the matcher accepts a text if it is
one of the forms between the two texts, character by character.
-/

namespace PhraseRules.Matcher

open PhraseRules.Regex
open PhraseRules.Text

/-! ## Expansion -/

section Expansion

variable {complete current : List (List Char)} {after : List Char} {fuel : Nat}

theorem productOf_singleton (values : List (List Char)) (word : List Char) :
    productOf values [word] = values.map (· ++ word) := by
  rw [productOf, ← List.flatMap_singleton' (values.map (· ++ word)), List.flatMap_map]
  rfl

theorem productOf_blank (values : List (List Char)) (word : List Char) :
    productOf [word] values = values.map (word ++ ·) := by
  rw [productOf, List.flatMap_singleton]

theorem unlessTooMany_of_few {values : List (List Char)}
    (few : values.length ≤ greatestValueCount) : unlessTooMany values = some values :=
  if_neg (Nat.not_lt_of_le few)

theorem unlessTooMany_of_many {values : List (List Char)}
    (many : greatestValueCount < values.length) : unlessTooMany values = none :=
  if_pos many

theorem isPlainEscape_of_isMeta {c : Char} (isMeta : metaCharacters.contains c = true) :
    isPlainEscape c = true := by
  have allPlain : metaCharacters.all isPlainEscape = true := by decide +kernel
  exact List.all_eq_true.mp allPlain c (List.contains_iff_mem.mp isMeta)

theorem isPlainEscape_of_isDigit {c : Char} (isDigit : c.isDigit = true) :
    isPlainEscape c = false := by
  have allNumeric : ∀ value : Fin 10, isPlainEscape (Char.ofNat (48 + value)) = false := by
    decide +kernel
  have bounds : 48 ≤ c.toNat ∧ c.toNat ≤ 57 := by
    simp only [Char.isDigit, Bool.and_eq_true, decide_eq_true_eq, ge_iff_le,
      UInt32.le_iff_toNat_le] at isDigit
    exact isDigit
  have value_eq := allNumeric ⟨c.toNat - 48, by omega⟩
  rwa [Nat.add_sub_cancel' bounds.1, Char.ofNat_toNat] at value_eq

theorem readValues_escaped {c : Char} :
    readValues (fuel + 1) complete current ('\\' :: c :: after) =
      if isPlainEscape c then readValues fuel complete (productOf current [[c]]) after
      else none := by
  rw [readValues.eq_def]
  rfl

/-- An escaped text is expanded to itself, behind each of the values so far. -/
theorem exists_readValues_escape (complete current : List (List Char)) {text : String}
    (enough : ((Regex.escape text).toList ++ after).length < fuel) :
    ∃ left, after.length ≤ left ∧
      readValues fuel complete current ((Regex.escape text).toList ++ after) =
        readValues (left + 1) complete (current.map (· ++ text.toList)) after := by
  rw [Regex.escape, String.toList_ofList] at enough ⊢
  generalize text.toList = chars at enough ⊢
  induction chars generalizing current fuel with
  | nil =>
      rcases Nat.exists_eq_add_one_of_ne_zero (Nat.ne_zero_of_lt enough) with ⟨left, rfl⟩
      exact ⟨left, Nat.le_of_lt_succ enough, by simp⟩
  | cons c later induction =>
      rcases Nat.exists_eq_add_one_of_ne_zero (Nat.ne_zero_of_lt enough) with ⟨fuel, rfl⟩
      rw [List.flatMap_cons, List.append_assoc] at enough ⊢
      have values_eq : (productOf current [[c]]).map (· ++ later) =
          current.map (· ++ c :: later) := by
        rw [productOf_singleton, List.map_map]
        simp
      split at enough
      case isTrue isMeta =>
          rcases induction (productOf current [[c]])
              (Nat.lt_of_succ_lt (Nat.lt_of_succ_lt_succ enough)) with ⟨left, enoughLeft, readOn⟩
          refine ⟨left, enoughLeft, ?_⟩
          rw [if_pos isMeta, ← values_eq, ← readOn]
          exact readValues_escaped.trans (if_pos (isPlainEscape_of_isMeta isMeta))
      case isFalse plain =>
          have differs (other : Char) := @ne_of_mem_metaCharacters c other plain
          rcases induction (productOf current [[c]]) (Nat.lt_of_succ_lt_succ enough) with
            ⟨left, enoughLeft, readOn⟩
          refine ⟨left, enoughLeft, ?_⟩
          rw [if_neg plain, ← values_eq, ← readOn, List.singleton_append, readValues,
            operators_contains_eq_false plain, if_neg Bool.false_ne_true]
          · exact differs ')' (by decide)
          · exact differs '|' (by decide)
          · exact differs '(' (by decide)
          · exact differs '\\' (by decide)

/-- The forms of a group are expanded to themselves, unless there are too many. -/
theorem readValues_forms (complete : List (List Char)) {forms : List String} (nonempty : forms ≠ [])
    (enough : (("|".intercalate (forms.map Regex.escape)).toList ++ ')' :: after).length < fuel) :
    readValues fuel complete [[]]
        (("|".intercalate (forms.map Regex.escape)).toList ++ ')' :: after) =
      (unlessTooMany (complete ++ forms.map String.toList)).map (·, ')' :: after) := by
  rw [String.toList_intercalate] at enough ⊢
  induction forms generalizing complete fuel with
  | nil => exact absurd rfl nonempty
  | cons form later induction =>
      cases later with
      | nil =>
          rw [List.map_singleton, List.map_singleton, List.intercalate_singleton] at enough ⊢
          rcases exists_readValues_escape complete [[]] enough with ⟨left, -, readOn⟩
          rw [readOn, readValues]
          change (unlessTooMany (complete ++ [form.toList]) >>= _) = (unlessTooMany _).map _
          rw [List.map_singleton]
          cases unlessTooMany (complete ++ [form.toList]) with
          | none => rfl
          | some united => rfl
      | cons next others =>
          rw [List.map_cons, List.map_cons, List.map_cons, List.map_cons,
            List.intercalate_cons_cons, List.append_assoc, List.append_assoc] at enough ⊢
          rcases exists_readValues_escape complete [[]] enough with ⟨left, enoughLeft, readOn⟩
          rw [readOn]
          change (unlessTooMany (complete ++ [form.toList]) >>= fun united =>
            readValues left united [[]] _) = _
          have values_eq : complete ++ (form :: next :: others).map String.toList =
              complete ++ [form.toList] ++ (next :: others).map String.toList := by
            rw [List.map_cons, List.append_assoc, List.singleton_append]
          rw [values_eq]
          by_cases few : (complete ++ [form.toList]).length ≤ greatestValueCount
          · rw [unlessTooMany_of_few few]
            exact induction _ (List.cons_ne_nil _ _) enoughLeft
          · have many := Nat.lt_of_not_le few
            rw [unlessTooMany_of_many many, unlessTooMany_of_many]
            · rfl
            · rw [List.length_append]
              exact many.trans_le (Nat.le_add_right _ _)

/-- A group is expanded to what stands in it, behind each of the values so far. -/
theorem readValues_group {values : List (List Char)} {inner : List Char}
    (inside : readValues fuel [] [[]] inner = some (values, ')' :: after)) :
    readValues (fuel + 1) complete current ('(' :: '?' :: ':' :: inner) =
      unlessTooMany (productOf current values) >>= fun product =>
        readValues fuel complete product after := by
  rw [readValues.eq_def]
  change (readValues fuel [] [[]] inner >>= _) = _
  rw [inside]
  rfl

theorem readValues_group_eq_none {inner : List Char}
    (inside : readValues fuel [] [[]] inner = none) :
    readValues (fuel + 1) complete current ('(' :: '?' :: ':' :: inner) = none := by
  rw [readValues.eq_def]
  change (readValues fuel [] [[]] inner >>= _) = _
  rw [inside]
  rfl

theorem toList_filled (forms : List String) (first last : String) :
    (Regex.escape first ++ expressionOfForms forms ++ Regex.escape last).toList =
      (Regex.escape first).toList ++ '(' :: '?' :: ':' ::
        (("|".intercalate (forms.map Regex.escape)).toList ++
          ')' :: ((Regex.escape last).toList ++ [])) := by
  simp [expressionOfForms]

/-- A group of forms between two escaped texts is expanded to one value for each form, unless there
are too many forms. -/
theorem expand?_filled {forms : List String} (nonempty : forms ≠ []) (first last : String) :
    expand? (Regex.escape first ++ expressionOfForms forms ++ Regex.escape last) =
      if forms.length ≤ greatestValueCount then
        some (distinct (forms.map fun form => first ++ form ++ last))
      else none := by
  rw [expand?, toList_filled]
  generalize inner_eq : ("|".intercalate (forms.map Regex.escape)).toList ++
    ')' :: ((Regex.escape last).toList ++ []) = inner
  rcases exists_readValues_escape [] [[]]
      (Nat.lt_succ_self ((Regex.escape first).toList ++ '(' :: '?' :: ':' :: inner).length) with
    ⟨left, enough, readOn⟩
  rw [readOn]
  subst inner_eq
  have enoughInside := Nat.lt_of_succ_lt (Nat.lt_of_succ_lt enough)
  have inside := readValues_forms [] nonempty enoughInside
  split
  case isTrue few =>
      have fewInside : ([] ++ forms.map String.toList).length ≤ greatestValueCount := by
        simpa using few
      rw [unlessTooMany_of_few fewInside] at inside
      have product_eq : productOf ([[]].map (· ++ first.toList)) ([] ++ forms.map String.toList) =
          forms.map fun form => first.toList ++ form.toList := by
        simp [productOf_blank]
      have enoughBehind : ((Regex.escape last).toList ++ []).length < left := by
        rw [List.length_append, List.length_cons] at enoughInside
        omega
      rcases exists_readValues_escape [] (forms.map fun form => first.toList ++ form.toList)
          enoughBehind with
        ⟨remaining, -, readBehind⟩
      rw [readValues_group inside, product_eq, unlessTooMany_of_few (by simpa using few)]
      change (readValues left [] _ _ >>= _) = _
      rw [readBehind, readValues, unlessTooMany_of_few (by simpa using few)]
      change some (distinct _) = _
      congr 2
      simp [String.ofList_append, String.append_assoc, Function.comp_def]
  case isFalse many =>
      have manyInside : greatestValueCount < ([] ++ forms.map String.toList).length := by
        simpa using Nat.lt_of_not_le many
      rw [unlessTooMany_of_many manyInside] at inside
      rw [readValues_group_eq_none inside]
      rfl

/-- A group with one form is expanded to the form, behind the value so far. -/
theorem readValues_form (form : String) (word : List Char)
    (enough : ((expressionOfForms [form]).toList ++ after).length < fuel) :
    ∃ left, after.length < left ∧
      readValues fuel [] [word] ((expressionOfForms [form]).toList ++ after) =
        readValues left [] [word ++ form.toList] after := by
  rcases Nat.exists_eq_add_one_of_ne_zero (Nat.ne_zero_of_lt enough) with ⟨fuel, rfl⟩
  have group_eq : (expressionOfForms [form]).toList ++ after =
      '(' :: '?' :: ':' ::
        (("|".intercalate ([form].map Regex.escape)).toList ++ ')' :: after) := by
    simp [expressionOfForms]
  rw [group_eq] at enough ⊢
  have enoughInside := Nat.lt_of_succ_lt (Nat.lt_of_succ_lt (Nat.lt_of_succ_lt_succ enough))
  have inside := readValues_forms [] (List.cons_ne_nil form []) enoughInside
  have few : ([] ++ [form].map String.toList).length ≤ greatestValueCount := by
    simp [greatestValueCount]
  rw [unlessTooMany_of_few few] at inside
  refine ⟨fuel, ?_, ?_⟩
  · rw [List.length_append, List.length_cons] at enoughInside
    omega
  · rw [readValues_group inside]
    rfl

/-- One form between any number of escaped texts is expanded to one value. -/
theorem exists_readValues_joined (form : String) (stretches : List String) (word : List Char)
    (enough : ((expressionOfForms [form]).intercalate (stretches.map Regex.escape)).toList.length <
      fuel) :
    ∃ value, readValues fuel [] [word]
        ((expressionOfForms [form]).intercalate (stretches.map Regex.escape)).toList =
      some ([value], []) := by
  have ends {left : Nat} (value : List Char) :
      readValues (left + 1) [] [value] [] = some ([value], []) := rfl
  rw [String.toList_intercalate] at enough ⊢
  induction stretches generalizing fuel word with
  | nil =>
      rcases Nat.exists_eq_add_one_of_ne_zero (Nat.ne_zero_of_lt enough) with ⟨left, rfl⟩
      exact ⟨word, ends word⟩
  | cons first later induction =>
      cases later with
      | nil =>
          rw [List.map_singleton, List.map_singleton, List.intercalate_singleton,
            ← List.append_nil (Regex.escape first).toList] at enough ⊢
          rcases exists_readValues_escape [] [word] enough with ⟨left, -, readOn⟩
          exact ⟨word ++ first.toList, readOn.trans (ends _)⟩
      | cons next others =>
          rw [List.map_cons, List.map_cons, List.map_cons, List.map_cons,
            List.intercalate_cons_cons, List.append_assoc] at enough ⊢
          rcases exists_readValues_escape [] [word] enough with ⟨left, enoughLeft, readOn⟩
          rcases readValues_form form (word ++ first.toList) (Nat.lt_succ_of_le enoughLeft) with
            ⟨remaining, enoughRemaining, readBehind⟩
          rcases induction (word ++ first.toList ++ form.toList) enoughRemaining with
            ⟨value, value_eq⟩
          exact ⟨value, readOn.trans (readBehind.trans value_eq)⟩

end Expansion

/-! ## Acceptance -/

/--
The matcher accepts just the forms between the two texts.  Of more forms than are listed this is
said only where case counts or the texts agree in case.
-/
def AcceptsFormsBetween (matcher : Matcher) (caseSensitive : Bool) (first last : String)
    (forms : List String) : Prop :=
  ∀ text, caseSensitive = true ∨ forms.length ≤ greatestValueCount ∨
      (∀ form ∈ forms, AgreeInCase (first ++ form ++ last) text) →
    (matcher.accepts text = true ↔
      ∃ form ∈ forms, IsSameText caseSensitive (first ++ form ++ last) text)

section Acceptance

variable {forms : List String}

theorem filled_ne_empty (forms : List String) (first last : String) :
    Regex.escape first ++ expressionOfForms forms ++ Regex.escape last ≠ "" := by
  intro empty
  have chars_eq := congrArg String.toList empty
  rw [toList_filled] at chars_eq
  simp at chars_eq

/-- What a literal text with one reference is read as lists the forms between its stretches. -/
theorem lists_filled (nonempty : forms ≠ []) (first last : String) :
    (Ast.ofItems (filledItems [first, last] forms)).Lists
      (languageOf (forms.map fun form => (first ++ form ++ last).toList)) := by
  have all : AllList (filledItems [first, last] forms)
      (first.toList.map (fun c => {[c]}) ++ [languageOf (forms.map String.toList)] ++
        last.toList.map fun c => {[c]}) := by
    rw [filledItems, List.map_cons, List.map_singleton, List.intercalate_cons_cons,
      List.intercalate_singleton]
    refine List.rel_append (List.rel_append (lists_literalItems first.toList) ?_)
      (lists_literalItems last.toList)
    exact .cons (lists_formsGroup nonempty) .nil
  have lists := Ast.lists_ofItems all
  rw [List.prod_append, List.prod_append, List.prod_singleton, prod_singletons, prod_singletons,
    ← languageOf_productOf, ← languageOf_productOf, productOf_blank, productOf_singleton,
    List.map_map, List.map_map] at lists
  simpa [Function.comp_def] using lists

/-- What compiles of a literal text with forms in it accepts the forms between its stretches,
character by character, where a character stands for its case variants if case does not count. -/
theorem compile_anchored_filled (nonempty : forms ≠ []) (first last : String)
    (caseSensitive : Bool) :
    Regex.compile (anchored (Regex.escape first ++ expressionOfForms forms ++ Regex.escape last)
        caseSensitive) = .error .tooLarge ∨
      ∃ regex, Regex.compile (anchored
          (Regex.escape first ++ expressionOfForms forms ++ Regex.escape last) caseSensitive) =
          .ok regex ∧
        ∀ text, regex.isMatch text = true ↔ ∃ form ∈ forms,
          List.Forall₂ (patternFlags caseSensitive).Admits (first ++ form ++ last).toList
            text.toList := by
  have reads := readsInside_filled_closing [first, last] nonempty
  rcases compile_anchored_of_lists reads (lists_filled nonempty first last) caseSensitive with
    ⟨deep, -⟩ | large | ⟨regex, regex_eq, isMatch_iff⟩
  · have shallow := depth_ofItems_filledItems_le [first, last] nonempty
    rw [greatestDepth] at deep
    omega
  · exact Or.inl large
  · refine Or.inr ⟨regex, regex_eq, fun text => (isMatch_iff text).trans ?_⟩
    simp only [mem_languageOf_iff, List.mem_map, exists_exists_and_eq_and]

/-- A literal text with forms in it makes a matcher that accepts just the forms between its
stretches, unless there are too many to list them and the expression is refused for its size. -/
theorem compile_filled (nonempty : forms ≠ []) (first last : String) (caseSensitive : Bool) :
    (∃ matcher, compile (Regex.escape first ++ expressionOfForms forms ++ Regex.escape last) true
        caseSensitive = .ok matcher ∧
          matcher.AcceptsFormsBetween caseSensitive first last forms) ∨
      greatestValueCount < forms.length ∧
        compile (Regex.escape first ++ expressionOfForms forms ++ Regex.escape last) true
          caseSensitive =
            .error (.invalidRegex
              (Regex.escape first ++ expressionOfForms forms ++ Regex.escape last) .tooLarge) := by
  have notEmpty := filled_ne_empty forms first last
  have expanded := expand?_filled nonempty first last
  split at expanded
  case isTrue few =>
      rcases accepts_iff_of_expand? notEmpty expanded caseSensitive with
        ⟨matcher, matcher_eq, accepts_iff⟩
      refine Or.inl ⟨matcher, matcher_eq, fun text _ => ?_⟩
      rw [accepts_iff]
      simp only [distinct, mem_distinctBeyond_iff, List.not_mem_nil, not_false_eq_true, and_true,
        List.mem_map, exists_exists_and_eq_and]
  case isFalse many =>
      rw [compile_eq_of_expand?_eq_none notEmpty expanded]
      rcases compile_anchored_filled nonempty first last caseSensitive with
        large | ⟨regex, regex_eq, isMatch_iff⟩
      · rw [large]
        exact Or.inr ⟨Nat.lt_of_not_le many, rfl⟩
      · rw [regex_eq]
        refine Or.inl ⟨_, rfl, fun text agree => (isMatch_iff text).trans ?_⟩
        refine exists_congr fun form => and_congr_right fun member => ?_
        apply forall₂_admits_iff_isSameText
        rcases agree with sensitive | few | agree
        · exact Or.inl sensitive
        · exact absurd few many
        · exact Or.inr (agree form member)

end Acceptance

/-! ## One form -/

theorem exists_compile_of_expand? {pattern : String} {values : List String}
    (expanded : expand? pattern = some values) (caseSensitive : Bool) :
    ∃ matcher, compile pattern true caseSensitive = .ok matcher := by
  rw [compile, if_pos rfl, regexTest, expanded]
  split
  case isTrue => exact ⟨_, rfl⟩
  case isFalse => exact ⟨_, rfl⟩

/-- A literal text with a single form in place of its references always makes a matcher. -/
theorem exists_compile_fillReferences {text : Matcher} (literal : text.isRegex = false) (slot : Nat)
    (form : String) (caseSensitive : Bool) :
    ∃ matcher, compile (fillReferences text slot (expressionOfForms [form])) true caseSensitive =
      .ok matcher := by
  rw [fillReferences, literal, if_neg Bool.false_ne_true]
  generalize stretchesBetween (referenceMark slot) text.pattern = stretches
  rcases exists_readValues_joined form stretches [] (Nat.lt_succ_self _) with ⟨value, value_eq⟩
  have expanded : expand? ((expressionOfForms [form]).intercalate (stretches.map Regex.escape)) =
      some (distinct [String.ofList value]) := by
    rw [expand?, value_eq]
    rfl
  exact exists_compile_of_expand? expanded caseSensitive

end PhraseRules.Matcher
