import PhraseRules.Proofs.Matcher.Enumerated
import PhraseRules.Search.Reference

/-!
# Texts that are taken literally

Before a text goes into an expression, its characters are escaped where they would have a meaning of
their own.  An escaped text is read as its characters, and the expression of forms as a group with a
branch for each form.  So a literal text with such a group in place of its references is read
without fault, and the only reason not to compile it is its size.
-/

namespace PhraseRules.Matcher

open PhraseRules.Regex

/-! ## Escaped texts -/

/-- The items that the characters of a text are read as. -/
def literalItems (text : List Char) : List Ast :=
  text.map fun c => .literal ⟨c, false⟩

variable {branches items : List Ast} {after left : List Char} {ast : Ast}

theorem ne_of_mem_metaCharacters {c other : Char} (plain : ¬metaCharacters.contains c = true)
    (isMeta : other ∈ metaCharacters) : c ≠ other := by
  rintro rfl
  exact plain (List.contains_iff_mem.mpr isMeta)

/-- A character that has no meaning of its own is no operator of an enumeration either. -/
theorem operators_contains_eq_false {c : Char} (plain : ¬metaCharacters.contains c = true) :
    operators.contains c = false := by
  rw [Bool.eq_false_iff, ne_eq, List.contains_iff_mem]
  intro member
  have allMeta : operators.all metaCharacters.contains = true := by decide +kernel
  exact plain (List.all_eq_true.mp allMeta c member)

/-- An escaped text is read as its characters. -/
theorem readsInside_escape_iff {text : String} :
    ReadsInside false branches items ((Regex.escape text).toList ++ after) ast left ↔
      ReadsInside false branches ((literalItems text.toList).reverse ++ items) after ast left := by
  rw [Regex.escape, String.toList_ofList]
  generalize text.toList = chars
  induction chars generalizing items with
  | nil => exact Iff.rfl
  | cons c later induction =>
      rw [literalItems, List.map_cons, List.reverse_cons, List.append_assoc,
        List.singleton_append, List.flatMap_cons, List.append_assoc]
      refine Iff.trans ?_ induction
      split
      case isTrue isMeta =>
          exact readsInside_items_iff _
            (readStep_of_isEscapable (Bool.or_eq_true_iff.mpr (Or.inl isMeta)))
      case isFalse plain =>
          have differs (other : Char) := @ne_of_mem_metaCharacters c other plain
          exact readsInside_items_iff _
            (readStep_of_plain ⟨differs '(' (by decide), differs ')' (by decide)⟩
              (differs '|' (by decide)) (differs '\\' (by decide))
              (operators_contains_eq_false plain))

/-! ## Forms -/

/-- The branch that a form is read as. -/
def formBranch (form : String) : Ast :=
  .ofItems (literalItems form.toList)

/-- The group that an expression of forms is read as. -/
def formsGroup (forms : List String) : Ast :=
  .group (.uncaptured []) (.ofBranches (forms.map formBranch))

theorem readsInside_forms {forms : List String} (nonempty : forms ≠ []) :
    ReadsInside false branches []
      (("|".intercalate (forms.map Regex.escape)).toList ++ ')' :: after)
      (.ofBranches (branches.reverse ++ forms.map formBranch)) (')' :: after) := by
  rw [String.toList_intercalate]
  induction forms generalizing branches with
  | nil => exact absurd rfl nonempty
  | cons form later induction =>
      cases later with
      | nil =>
          rw [List.map_singleton, List.map_singleton, List.intercalate_singleton]
          apply readsInside_escape_iff.mpr
          have reads : ReadsInside false branches ((literalItems form.toList).reverse ++ [])
              (')' :: after) (closeBranches branches ((literalItems form.toList).reverse ++ []))
              (')' :: after) :=
            .stop rfl
          simpa [closeBranches, formBranch] using reads
      | cons next others =>
          rw [List.map_cons, List.map_cons, List.map_cons, List.map_cons,
            List.intercalate_cons_cons, List.append_assoc, List.append_assoc]
          apply readsInside_escape_iff.mpr
          refine .branch rfl ?_
          simpa [formBranch] using @induction (formBranch form :: branches) (by simp)

/-- The expression of forms is read as a group with their branches. -/
theorem readsInside_expressionOfForms {forms : List String} (nonempty : forms ≠ [])
    (reads : ReadsInside false branches (formsGroup forms :: items) after ast left) :
    ReadsInside false branches items ((expressionOfForms forms).toList ++ after) ast left := by
  have text_eq : (expressionOfForms forms).toList ++ after =
      '(' :: '?' :: ':' :: (("|".intercalate (forms.map Regex.escape)).toList ++ ')' :: after) := by
    simp [expressionOfForms]
  rw [text_eq]
  refine (readsInside_enter_iff (.uncaptured []) rfl).mpr ⟨_, after, ?_, reads⟩
  exact readsInside_forms nonempty

theorem lists_literalItems (text : List Char) :
    AllList (literalItems text) (text.map fun c => {[c]}) := by
  rw [AllList, literalItems, List.forall₂_map_left_iff, List.forall₂_map_right_iff,
    List.forall₂_same]
  exact fun c _ => Ast.lists_literal c

theorem prod_singletons (text : List Char) :
    (text.map fun c => ({[c]} : WordLanguage)).prod = languageOf [text] := by
  induction text with
  | nil => exact languageOf_blank.symm
  | cons c later induction =>
      rw [List.map_cons, List.prod_cons, induction, ← languageOf_singleton,
        ← languageOf_productOf]
      rfl

theorem sum_singletons (values : List (List Char)) :
    (values.map fun value => languageOf [value]).sum = languageOf values := by
  induction values with
  | nil => exact languageOf_nil.symm
  | cons value later induction =>
      rw [List.map_cons, List.sum_cons, induction, ← languageOf_append, List.singleton_append]

/-- The group of an expression of forms lists the forms. -/
theorem lists_formsGroup {forms : List String} (nonempty : forms ≠ []) :
    (formsGroup forms).Lists (languageOf (forms.map String.toList)) := by
  have all : AllList (forms.map formBranch)
      ((forms.map String.toList).map fun form => languageOf [form]) := by
    rw [AllList, List.map_map, List.forall₂_map_left_iff, List.forall₂_map_right_iff,
      List.forall₂_same]
    intro form _
    have lists := Ast.lists_ofItems (lists_literalItems form.toList)
    rwa [prod_singletons] at lists
  have lists := Ast.lists_ofBranches (by simpa using nonempty) all
  rw [sum_singletons] at lists
  exact lists.group_uncaptured

/-! ## Depth -/

theorem depthOfAll_le {items : List Ast} {bound : Nat}
    (each : ∀ item ∈ items, item.depth ≤ bound) : Ast.depthOfAll items ≤ bound := by
  induction items with
  | nil => exact Nat.zero_le bound
  | cons item later induction =>
      rw [Ast.depthOfAll]
      exact Nat.max_le.mpr ⟨each item List.mem_cons_self,
        induction fun other member => each other (List.mem_cons_of_mem _ member)⟩

theorem depth_ofItems_le {items : List Ast} {bound : Nat}
    (each : ∀ item ∈ items, item.depth ≤ bound) : (Ast.ofItems items).depth ≤ bound + 1 := by
  rw [Ast.ofItems.eq_def]
  split
  case h_1 => exact Nat.zero_le _
  case h_2 item => exact Nat.le_succ_of_le (each item (List.mem_singleton_self item))
  case h_3 =>
      rw [Ast.depth]
      exact Nat.succ_le_succ (depthOfAll_le each)

theorem depth_ofBranches_le {branches : List Ast} {bound : Nat}
    (each : ∀ branch ∈ branches, branch.depth ≤ bound) :
    (Ast.ofBranches branches).depth ≤ bound + 1 := by
  rw [Ast.ofBranches.eq_def]
  split
  case h_1 branch => exact Nat.le_succ_of_le (each branch (List.mem_singleton_self branch))
  case h_2 =>
      rw [Ast.depth]
      exact Nat.succ_le_succ (depthOfAll_le each)

theorem depth_of_mem_literalItems {text : List Char} {item : Ast}
    (member : item ∈ literalItems text) : item.depth = 0 := by
  rcases List.mem_map.mp member with ⟨c, -, rfl⟩
  rw [Ast.depth]

theorem depth_formsGroup_le (forms : List String) : (formsGroup forms).depth ≤ 3 := by
  rw [formsGroup, Ast.depth]
  refine Nat.succ_le_succ (depth_ofBranches_le fun branch member => ?_)
  rcases List.mem_map.mp member with ⟨form, -, rfl⟩
  exact depth_ofItems_le fun item member => Nat.le_of_eq (depth_of_mem_literalItems member)

/-! ## Filled texts -/

/-- The items that a literal text is read as when forms stand between its stretches. -/
def filledItems (stretches forms : List String) : List Ast :=
  [formsGroup forms].intercalate (stretches.map fun stretch => literalItems stretch.toList)

theorem readsInside_filled {stretches forms : List String} (nonempty : forms ≠ [])
    (reads : ReadsInside false branches ((filledItems stretches forms).reverse ++ items) after ast
      left) :
    ReadsInside false branches items
      (((expressionOfForms forms).intercalate (stretches.map Regex.escape)).toList ++ after) ast
        left := by
  rw [String.toList_intercalate]
  rw [filledItems] at reads
  induction stretches generalizing items with
  | nil => exact reads
  | cons stretch later induction =>
      cases later with
      | nil =>
          rw [List.map_singleton, List.intercalate_singleton] at reads
          rw [List.map_singleton, List.map_singleton, List.intercalate_singleton]
          exact readsInside_escape_iff.mpr reads
      | cons next others =>
          rw [List.map_cons, List.map_cons, List.intercalate_cons_cons, List.reverse_append,
            List.reverse_append, List.reverse_singleton, List.append_assoc, List.append_assoc]
            at reads
          rw [List.map_cons, List.map_cons, List.map_cons, List.map_cons,
            List.intercalate_cons_cons, List.append_assoc, List.append_assoc]
          apply readsInside_escape_iff.mpr
          apply readsInside_expressionOfForms nonempty
          exact induction reads

theorem mem_filledItems {stretches forms : List String} {item : Ast}
    (member : item ∈ filledItems stretches forms) :
    item = formsGroup forms ∨ ∃ stretch : String, item ∈ literalItems stretch.toList := by
  rw [filledItems] at member
  induction stretches with
  | nil => cases member
  | cons stretch later induction =>
      cases later with
      | nil =>
          rw [List.map_singleton, List.intercalate_singleton] at member
          exact Or.inr ⟨stretch, member⟩
      | cons next others =>
          rw [List.map_cons, List.map_cons, List.intercalate_cons_cons, List.append_assoc,
            List.mem_append, List.mem_append, List.mem_singleton] at member
          rcases member with member | rfl | member
          · exact Or.inr ⟨stretch, member⟩
          · exact Or.inl rfl
          · exact induction member

/-- Every item of a filled text lists words and is not deep. -/
theorem lists_of_mem_filledItems {stretches forms : List String} (nonempty : forms ≠ [])
    {item : Ast} (member : item ∈ filledItems stretches forms) :
    (∃ words, item.Lists words) ∧ item.depth ≤ 3 := by
  rcases mem_filledItems member with rfl | ⟨stretch, member⟩
  · exact ⟨⟨_, lists_formsGroup nonempty⟩, depth_formsGroup_le forms⟩
  · refine ⟨?_, Nat.le_trans (Nat.le_of_eq (depth_of_mem_literalItems member)) (Nat.zero_le 3)⟩
    rcases List.mem_map.mp member with ⟨c, -, rfl⟩
    exact ⟨_, Ast.lists_literal c⟩

/-- A filled text is read as its items, up to the closing of the group around it. -/
theorem readsInside_filled_closing (stretches : List String) {forms : List String}
    (nonempty : forms ≠ []) :
    ReadsInside false [] []
      (((expressionOfForms forms).intercalate (stretches.map Regex.escape)).toList ++ closing)
      (.ofItems (filledItems stretches forms)) closing := by
  apply readsInside_filled nonempty
  rw [List.append_nil]
  refine (readsInside_stop_iff rfl).mpr ⟨?_, rfl⟩
  rw [closeBranches, List.reverse_reverse]
  rfl

theorem depth_ofItems_filledItems_le (stretches : List String) {forms : List String}
    (nonempty : forms ≠ []) : (Ast.ofItems (filledItems stretches forms)).depth ≤ 4 :=
  depth_ofItems_le fun _ member => (lists_of_mem_filledItems nonempty member).2

/-- A literal text that is filled with forms is refused for its size or not at all. -/
theorem eq_tooLarge_of_fillReferences {text : Matcher} (literal : text.isRegex = false)
    {forms : List String} (nonempty : forms ≠ []) {slot : Nat} {caseSensitive : Bool}
    {cause : Fault}
    (refused : Regex.compile (anchored
      (fillReferences text slot (expressionOfForms forms)) caseSensitive) = .error cause) :
    cause = .tooLarge := by
  rw [fillReferences, literal, if_neg Bool.false_ne_true] at refused
  generalize stretchesBetween (referenceMark slot) text.pattern = stretches at refused
  obtain ⟨languages, all⟩ :
      ∃ languages, AllList (filledItems stretches forms) languages := by
    have each : ∀ item ∈ filledItems stretches forms, ∃ words, item.Lists words :=
      fun item member => (lists_of_mem_filledItems nonempty member).1
    generalize filledItems stretches forms = items at each
    induction items with
    | nil => exact ⟨[], .nil⟩
    | cons item later induction =>
        rcases each item List.mem_cons_self with ⟨words, lists⟩
        rcases induction fun other member => each other (List.mem_cons_of_mem _ member) with
          ⟨languages, all⟩
        exact ⟨words :: languages, .cons lists all⟩
  have reads := readsInside_filled_closing stretches nonempty
  have shallow := depth_ofItems_filledItems_le stretches nonempty
  rcases compile_anchored_of_lists reads (Ast.lists_ofItems all) caseSensitive with
    ⟨deep, -⟩ | large | ⟨regex, regex_eq, -⟩
  · rw [greatestDepth] at deep
    omega
  · exact Except.error.inj (refused.symm.trans large)
  · cases refused.symm.trans regex_eq

end PhraseRules.Matcher
