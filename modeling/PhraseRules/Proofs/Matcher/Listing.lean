import PhraseRules.Proofs.Matcher.Filled

/-!
# The patterns that are expanded

A pattern that only lists words is written by a `Listing`: alternatives of items one behind the
other, where an item is a plain character, an escaped one or a group.  A listing denotes a language,
the sum of its branches, which are the products of their items.

Expanding reads a pattern as the only listing that it can be (`Listing.readValues_text`), and fails
where there is none.  So `expand?_lists_denoted` says just which patterns are expanded, and to what.
-/

namespace PhraseRules.Matcher

/-! ## Listings -/

/-- The characters that write alternatives, groups and escapes. -/
def delimiters : List Char :=
  ['|', '(', ')', '\\']

/-- Whether a character that is not escaped stands for itself. -/
def isPlain (c : Char) : Bool :=
  !operators.contains c && !delimiters.contains c

mutual

/-- Alternatives with bars between them. -/
inductive Listing where
  | last (branch : Branch)
  | either (branch : Branch) (later : Listing)

/-- Items one behind the other; there may be none. -/
inductive Branch where
  | blank
  | behind (item : Item) (later : Branch)

/-- A character, or a group of alternatives, which may be one that captures nothing. -/
inductive Item where
  | plain (c : Char) (standsForItself : isPlain c = true)
  | escaped (c : Char) (standsForItself : isPlainEscape c = true)
  | group (captures : Bool) (inside : Listing)

end

/-- What begins a group. -/
def Item.opening (captures : Bool) : List Char :=
  if captures then ['('] else ['(', '?', ':']

mutual

/-- The pattern that a listing writes. -/
def Listing.text : Listing → List Char
  | .last branch => branch.text
  | .either branch later => branch.text ++ '|' :: later.text

/-- The part of a pattern that a branch writes. -/
def Branch.text : Branch → List Char
  | .blank => []
  | .behind item later => item.text ++ later.text

/-- The part of a pattern that an item writes. -/
def Item.text : Item → List Char
  | .plain c _ => [c]
  | .escaped c _ => ['\\', c]
  | .group captures inside => Item.opening captures ++ inside.text ++ [')']

end

mutual

/-- The words that a listing denotes: those of any of its branches. -/
def Listing.language : Listing → WordLanguage
  | .last branch => branch.language
  | .either branch later => branch.language + later.language

/-- The words that a branch denotes: one of each item, put together. -/
def Branch.language : Branch → WordLanguage
  | .blank => 1
  | .behind item later => item.language * later.language

/-- The words that an item denotes. -/
def Item.language : Item → WordLanguage
  | .plain c _ => {[c]}
  | .escaped c _ => {[c]}
  | .group _ inside => inside.language

end

mutual

/-- The words of a listing, as often as they come up. -/
def Listing.words : Listing → List (List Char)
  | .last branch => branch.words
  | .either branch later => branch.words ++ later.words

/-- The words of a branch, as often as they come up. -/
def Branch.words : Branch → List (List Char)
  | .blank => [[]]
  | .behind item later => productOf item.words later.words

/-- The words of an item, as often as they come up. -/
def Item.words : Item → List (List Char)
  | .plain c _ => [[c]]
  | .escaped c _ => [[c]]
  | .group _ inside => inside.words

end

/-! ## Words -/

mutual

/-- The words that come up are those that are denoted. -/
theorem Listing.languageOf_words : ∀ listing : Listing,
    languageOf listing.words = listing.language
  | .last branch => branch.languageOf_words
  | .either branch later => by
      rw [Listing.words, Listing.language, languageOf_append, branch.languageOf_words,
        later.languageOf_words]

theorem Branch.languageOf_words : ∀ branch : Branch, languageOf branch.words = branch.language
  | .blank => languageOf_blank
  | .behind item later => by
      rw [Branch.words, Branch.language, languageOf_productOf, item.languageOf_words,
        later.languageOf_words]

theorem Item.languageOf_words : ∀ item : Item, languageOf item.words = item.language
  | .plain c _ => languageOf_singleton [c]
  | .escaped c _ => languageOf_singleton [c]
  | .group _ inside => inside.languageOf_words

end

theorem length_productOf (first second : List (List Char)) :
    (productOf first second).length = first.length * second.length := by
  simp [productOf, List.length_flatMap]

theorem productOf_empty_word (values : List (List Char)) : productOf [[]] values = values := by
  simp [productOf_blank]

theorem length_le_length_productOf_left {first second : List (List Char)}
    (nonempty : 0 < second.length) : first.length ≤ (productOf first second).length := by
  rw [length_productOf]
  exact Nat.le_mul_of_pos_right _ nonempty

theorem length_le_length_productOf_right {first second : List (List Char)}
    (nonempty : 0 < first.length) : second.length ≤ (productOf first second).length := by
  rw [length_productOf]
  exact Nat.le_mul_of_pos_left _ nonempty

theorem productOf_assoc (first second third : List (List Char)) :
    productOf (productOf first second) third = productOf first (productOf second third) := by
  simp only [productOf, List.flatMap_assoc, List.flatMap_map, List.map_flatMap, List.map_map,
    Function.comp_def, List.append_assoc]

mutual

/-- Every part of a pattern stands for some word. -/
theorem Listing.length_words_pos : ∀ listing : Listing, 0 < listing.words.length
  | .last branch => branch.length_words_pos
  | .either branch later => by
      rw [Listing.words, List.length_append]
      exact Nat.add_pos_left branch.length_words_pos _

theorem Branch.length_words_pos : ∀ branch : Branch, 0 < branch.words.length
  | .blank => Nat.one_pos
  | .behind item later => by
      rw [Branch.words, length_productOf]
      exact Nat.mul_pos item.length_words_pos later.length_words_pos

theorem Item.length_words_pos : ∀ item : Item, 0 < item.words.length
  | .plain _ _ => Nat.one_pos
  | .escaped _ _ => Nat.one_pos
  | .group _ inside => inside.length_words_pos

end

/-! ## Reading a listing -/

section Reading

variable {fuel : Nat} {complete current : List (List Char)} {after : List Char}

/-- What is done with values unless there are too many comes to a result if there is none where
there are too many. -/
theorem unlessTooMany_bind_eq {α : Type} {values : List (List Char)}
    {next : List (List Char) → Option α} {result : Option α}
    (few : values.length ≤ greatestValueCount → next values = result)
    (many : greatestValueCount < values.length → result = none) :
    unlessTooMany values >>= next = result := by
  rcases Nat.lt_or_ge greatestValueCount values.length with less | ge
  · rw [unlessTooMany_of_many less, many less]
    rfl
  · rw [unlessTooMany_of_few ge, ← few ge]
    rfl

theorem readValues_plain {c : Char} (standsForItself : isPlain c = true) :
    readValues (fuel + 1) complete current (c :: after) =
      readValues fuel complete (productOf current [[c]]) after := by
  rw [isPlain, Bool.and_eq_true, Bool.not_eq_true', Bool.not_eq_true'] at standsForItself
  obtain ⟨noOperator, noDelimiter⟩ := standsForItself
  have differs (other : Char) (delimits : other ∈ delimiters) : c ≠ other := by
    rintro rfl
    rw [List.contains_iff_mem.mpr delimits] at noDelimiter
    cases noDelimiter
  rw [readValues, noOperator, if_neg Bool.false_ne_true]
  · exact differs ')' (by decide)
  · exact differs '|' (by decide)
  · exact differs '(' (by decide)
  · exact differs '\\' (by decide)

/-- A listing does not begin as the flags of a group do. -/
theorem Item.text_append_ne (item : Item) (behind : List Char) :
    item.text ++ after ≠ '?' :: behind := by
  intro equal
  cases item with
  | plain c standsForItself =>
      cases equal
      revert standsForItself
      decide
  | escaped c standsForItself => cases equal
  | group captures inside => cases captures <;> cases equal

theorem Listing.text_append_ne (listing : Listing) (noFlags : ∀ behind, after ≠ '?' :: behind)
    (behind : List Char) : listing.text ++ after ≠ '?' :: behind := by
  have branch_ne (branch : Branch) {after : List Char} (noFlags : after ≠ '?' :: behind) :
      branch.text ++ after ≠ '?' :: behind := by
    cases branch with
    | blank => exact noFlags
    | behind item later =>
        rw [Branch.text, List.append_assoc]
        exact item.text_append_ne behind
  cases listing with
  | last branch => exact branch_ne branch (noFlags behind)
  | either branch later =>
      rw [Listing.text, List.append_assoc]
      exact branch_ne branch fun equal => by cases equal

/-- A group of either kind is expanded to what is read in it, behind each of the values so far. -/
theorem readValues_opening {inner : List Char} {inside : Option (List (List Char))}
    (captures : Bool) (noFlags : ∀ behind, inner ≠ '?' :: behind)
    (read : readValues fuel [] [[]] inner = inside.map (·, ')' :: after)) :
    readValues (fuel + 1) complete current (Item.opening captures ++ inner) =
      inside >>= fun values => unlessTooMany (productOf current values) >>= fun product =>
        readValues fuel complete product after := by
  cases captures with
  | false =>
      rw [readValues.eq_def]
      change (readValues fuel [] [[]] inner >>= _) = _
      rw [read]
      cases inside <;> rfl
  | true =>
      rw [Item.opening, if_pos rfl, List.singleton_append, readValues.eq_def]
      simp only
      split
      case h_1 => exact absurd rfl (noFlags _)
      case h_2 => exact absurd rfl (noFlags _)
      case h_3 =>
          change (readValues fuel [] [[]] inner >>= _) = _
          rw [read]
          cases inside <;> rfl

/-- Where a group or the pattern ends, the values are those of all branches. -/
theorem readValues_ends (ends : after = [] ∨ ∃ behind, after = ')' :: behind) :
    readValues (fuel + 1) complete current after =
      (unlessTooMany (complete ++ current)).map (·, after) := by
  have read : readValues (fuel + 1) complete current after =
      unlessTooMany (complete ++ current) >>= fun united => some (united, after) := by
    rcases ends with rfl | ⟨behind, rfl⟩
    · rw [readValues.eq_def]
      rfl
    · rw [readValues.eq_def]
      rfl
  rw [read]
  cases unlessTooMany (complete ++ current) <;> rfl

theorem readValues_bar :
    readValues (fuel + 1) complete current ('|' :: after) =
      unlessTooMany (complete ++ current) >>= fun united =>
        readValues fuel united [[]] after := by
  rw [readValues.eq_def]
  rfl

mutual

/-- A listing is expanded to its words, unless there are too many. -/
theorem Listing.readValues_text {fuel : Nat} (complete : List (List Char)) {after : List Char}
    (ends : after = [] ∨ ∃ behind, after = ')' :: behind) : ∀ listing : Listing,
    (listing.text ++ after).length < fuel →
      readValues fuel complete [[]] (listing.text ++ after) =
        (unlessTooMany (complete ++ listing.words)).map (·, after)
  | .last branch, enough => by
      rcases branch.readValues_text complete [[]] (by decide) Nat.one_pos enough with
        ⟨left, enoughLeft, readOn⟩
      rcases Nat.exists_eq_add_one_of_ne_zero (Nat.ne_zero_of_lt enoughLeft) with ⟨left, rfl⟩
      rw [Listing.text, readOn, productOf_empty_word, Listing.words]
      refine unlessTooMany_bind_eq (fun _ => readValues_ends ends) (fun many => ?_)
      rw [unlessTooMany_of_many (by rw [List.length_append]; omega)]
      rfl
  | .either branch later, enough => by
      rw [Listing.text, List.append_assoc, List.cons_append] at enough ⊢
      rcases branch.readValues_text complete [[]] (by decide) Nat.one_pos enough with
        ⟨left, enoughLeft, readOn⟩
      rcases Nat.exists_eq_add_one_of_ne_zero (Nat.ne_zero_of_lt enoughLeft) with ⟨left, rfl⟩
      rw [readOn, productOf_empty_word, Listing.words, ← List.append_assoc]
      refine unlessTooMany_bind_eq (fun _ => ?_) (fun many => ?_)
      · rw [readValues_bar]
        refine unlessTooMany_bind_eq (fun _ => ?_) (fun many => ?_)
        · exact later.readValues_text _ ends (Nat.lt_of_succ_lt_succ enoughLeft)
        · rw [unlessTooMany_of_many (by rw [List.length_append]; omega)]
          rfl
      · rw [unlessTooMany_of_many (by rw [List.length_append, List.length_append]; omega)]
        rfl

/-- A branch is expanded to its words, each behind each of the values so far. -/
theorem Branch.readValues_text {fuel : Nat} (complete current : List (List Char))
    {after : List Char}
    (few : current.length ≤ greatestValueCount) (nonempty : 0 < current.length) :
    ∀ branch : Branch, (branch.text ++ after).length < fuel →
      ∃ left, after.length < left ∧
        readValues fuel complete current (branch.text ++ after) =
          unlessTooMany (productOf current branch.words) >>= fun next =>
            readValues left complete next after
  | .blank, enough => by
      refine ⟨fuel, enough, ?_⟩
      rw [Branch.words, productOf_singleton, unlessTooMany_of_few (by rwa [List.length_map])]
      simp [Branch.text]
  | .behind item later, enough => by
      rw [Branch.text, List.append_assoc] at enough ⊢
      rcases item.readValues_text complete current few nonempty enough with
        ⟨left, enoughLeft, readOn⟩
      have nonemptyOn : 0 < (productOf current item.words).length :=
        nonempty.trans_le (length_le_length_productOf_left item.length_words_pos)
      rw [readOn, Branch.words, ← productOf_assoc]
      rcases Nat.lt_or_ge greatestValueCount (productOf current item.words).length with many | fewOn
      · refine ⟨after.length + 1, Nat.lt_succ_self _, ?_⟩
        rw [unlessTooMany_of_many many, unlessTooMany_of_many]
        · rfl
        · exact many.trans_le (length_le_length_productOf_left later.length_words_pos)
      · rw [unlessTooMany_of_few fewOn]
        exact later.readValues_text complete _ fewOn nonemptyOn enoughLeft

/-- An item is expanded to its words, each behind each of the values so far. -/
theorem Item.readValues_text {fuel : Nat} (complete current : List (List Char))
    {after : List Char}
    (few : current.length ≤ greatestValueCount) (nonempty : 0 < current.length) :
    ∀ item : Item, (item.text ++ after).length < fuel →
      ∃ left, after.length < left ∧
        readValues fuel complete current (item.text ++ after) =
          unlessTooMany (productOf current item.words) >>= fun next =>
            readValues left complete next after
  | .plain c standsForItself, enough => by
      rcases Nat.exists_eq_add_one_of_ne_zero (Nat.ne_zero_of_lt enough) with ⟨fuel, rfl⟩
      refine ⟨fuel, Nat.lt_of_succ_lt_succ enough, ?_⟩
      rw [Item.words, unlessTooMany_of_few (by rwa [length_productOf, List.length_singleton,
        Nat.mul_one])]
      exact readValues_plain standsForItself
  | .escaped c standsForItself, enough => by
      rcases Nat.exists_eq_add_one_of_ne_zero (Nat.ne_zero_of_lt enough) with ⟨fuel, rfl⟩
      refine ⟨fuel, Nat.lt_of_succ_lt (Nat.lt_of_succ_lt_succ enough), ?_⟩
      rw [Item.words, unlessTooMany_of_few (by rwa [length_productOf, List.length_singleton,
        Nat.mul_one])]
      exact readValues_escaped.trans (if_pos standsForItself)
  | .group captures inside, enough => by
      rcases Nat.exists_eq_add_one_of_ne_zero (Nat.ne_zero_of_lt enough) with ⟨fuel, rfl⟩
      have text_eq : (Item.group captures inside).text ++ after =
          Item.opening captures ++ (inside.text ++ ')' :: after) := by
        simp [Item.text]
      have opening_pos : 0 < (Item.opening captures).length := by cases captures <;> decide
      rw [text_eq, List.length_append] at enough
      have enoughInside : (inside.text ++ ')' :: after).length < fuel := by omega
      have read := inside.readValues_text [] (Or.inr ⟨after, rfl⟩) enoughInside
      rw [text_eq, readValues_opening captures (inside.text_append_ne fun _ equal => by cases equal)
        read, List.nil_append, Item.words]
      refine ⟨fuel, ?_, unlessTooMany_bind_eq (fun _ => rfl) (fun many => ?_)⟩
      · rw [List.length_append, List.length_cons] at enoughInside
        omega
      · rw [unlessTooMany_of_many
          (many.trans_le (length_le_length_productOf_right nonempty))]
        rfl

end

/-! ## What is expanded -/

/-- The listing with an item before its first branch. -/
def Listing.behind (item : Item) : Listing → Listing
  | .last branch => .last (.behind item branch)
  | .either branch later => .either (.behind item branch) later

theorem Listing.text_behind (item : Item) (listing : Listing) :
    (listing.behind item).text = item.text ++ listing.text := by
  cases listing with
  | last branch => rfl
  | either branch later =>
      rw [behind, text, text, Branch.text, List.append_assoc]

theorem isPlain_of_operators {c : Char} (noEnd : c ≠ ')') (noBar : c ≠ '|') (noGroup : c ≠ '(')
    (noEscape : c ≠ '\\') (noOperator : ¬operators.contains c = true) : isPlain c = true := by
  rw [isPlain, Bool.eq_false_iff.mpr noOperator]
  simp [delimiters, noEnd, noBar, noGroup, noEscape]

/-- What is expanded up to the end of a group is a listing. -/
theorem exists_listing_of_readValues {pattern rest : List Char} {values : List (List Char)}
    (expanded : readValues fuel complete current pattern = some (values, rest)) :
    ∃ listing : Listing, listing.text ++ rest = pattern := by
  induction fuel generalizing complete current pattern rest values with
  | zero => cases expanded
  | succ fuel induction =>
      have original := expanded
      rw [readValues.eq_def] at expanded
      simp only at expanded
      split at expanded
      case h_1 =>
          rcases Option.bind_eq_some_iff.mp expanded with ⟨united, -, equal⟩
          cases equal
          exact ⟨.last .blank, rfl⟩
      case h_2 behind =>
          rcases Option.bind_eq_some_iff.mp expanded with ⟨united, -, equal⟩
          cases equal
          exact ⟨.last .blank, rfl⟩
      case h_3 behind =>
          rcases Option.bind_eq_some_iff.mp expanded with ⟨united, -, expanded⟩
          rcases induction expanded with ⟨later, rfl⟩
          exact ⟨.either .blank later, rfl⟩
      case h_4 behind =>
          rcases readValues_parenthesis_eq_some original with
            ⟨inner, values, remaining, opening, expandedInside, expandedOn⟩
          rcases induction expandedInside with ⟨inside, rfl⟩
          rcases induction expandedOn with ⟨later, rfl⟩
          rcases opening with rfl | ⟨rfl, -⟩
          · exact ⟨later.behind (.group false inside), by
              simp [Listing.text_behind, Item.text, Item.opening]⟩
          · exact ⟨later.behind (.group true inside), by
              simp [Listing.text_behind, Item.text, Item.opening]⟩
      case h_5 behind =>
          split at expanded
          case h_1 => cases expanded
          case h_2 c behind =>
              split at expanded
              case isFalse => cases expanded
              case isTrue standsForItself =>
                  rcases induction expanded with ⟨later, rfl⟩
                  refine ⟨later.behind (.escaped c standsForItself), ?_⟩
                  rw [Listing.text_behind]
                  rfl
      case h_6 c behind noEnd noBar noGroup noEscape =>
          split at expanded
          case isTrue => cases expanded
          case isFalse noOperator =>
              rcases induction expanded with ⟨later, rfl⟩
              refine ⟨later.behind (.plain c
                (isPlain_of_operators noEnd noBar noGroup noEscape noOperator)), ?_⟩
              rw [Listing.text_behind]
              rfl

end Reading

variable {pattern : String} {values : List String}

/-- A pattern that is expanded is a listing. -/
theorem exists_listing_of_expand? (expanded : expand? pattern = some values) :
    ∃ listing : Listing, listing.text = pattern.toList := by
  rcases Option.bind_eq_some_iff.mp expanded with ⟨⟨chars, rest⟩, read, expanded⟩
  split at expanded
  case h_1 equal =>
      cases equal
      rcases exists_listing_of_readValues read with ⟨listing, text_eq⟩
      exact ⟨listing, by rwa [List.append_nil] at text_eq⟩
  case h_2 => cases expanded

/-- A listing is expanded to its words, each once, unless there are too many of them. -/
theorem Listing.expand?_eq {listing : Listing} (writes : listing.text = pattern.toList) :
    expand? pattern =
      if listing.words.length ≤ greatestValueCount then
        some (distinct (listing.words.map String.ofList))
      else none := by
  have read := listing.readValues_text [] (Or.inl rfl)
    (Nat.lt_succ_self (listing.text ++ []).length)
  rw [List.append_nil, List.nil_append, writes] at read
  rw [expand?, read]
  split
  case isTrue few =>
      rw [unlessTooMany_of_few few]
      rfl
  case isFalse many =>
      rw [unlessTooMany_of_many (Nat.lt_of_not_le many)]
      rfl

/--
A pattern that is expanded is a listing, and it is expanded to the words that the listing denotes,
each once, of which there are at most as many as are listed.  Of the listings those alone are not
expanded of which too many words come up.
-/
theorem expand?_lists_denoted (pattern : String) :
    (∀ values, expand? pattern = some values →
      (∃ listing : Listing, listing.text = pattern.toList) ∧
      (∀ listing : Listing, listing.text = pattern.toList →
        ∀ text : String, text ∈ values ↔ text.toList ∈ listing.language) ∧
      values.Nodup ∧ values.length ≤ greatestValueCount) ∧
    ∀ listing : Listing, listing.text = pattern.toList →
      (expand? pattern = none ↔ greatestValueCount < listing.words.length) := by
  constructor
  · intro values expanded
    have denoted (listing : Listing) (writes : listing.text = pattern.toList) :
        listing.words.length ≤ greatestValueCount ∧
          distinct (listing.words.map String.ofList) = values := by
      rw [listing.expand?_eq writes] at expanded
      split at expanded
      case isTrue few => exact ⟨few, Option.some.inj expanded⟩
      case isFalse => cases expanded
    obtain ⟨listing, writes⟩ := exists_listing_of_expand? expanded
    refine ⟨⟨listing, writes⟩, ?_, ?_, ?_⟩
    · intro other writesOther text
      rw [← (denoted other writesOther).2, mem_distinct_iff, ← other.languageOf_words,
        mem_languageOf_iff, List.mem_map]
      constructor
      · rintro ⟨word, member, rfl⟩
        rwa [String.toList_ofList]
      · intro member
        exact ⟨text.toList, member, String.ofList_toList⟩
    · rw [← (denoted listing writes).2]
      exact nodup_distinct _
    · obtain ⟨few, rfl⟩ := denoted listing writes
      have fewer := (distinct_sublist (listing.words.map String.ofList)).length_le
      rw [List.length_map] at fewer
      exact fewer.trans few
  · intro listing writes
    rw [listing.expand?_eq writes]
    split
    case isTrue few => simpa using few
    case isFalse many => simpa using many

/-- Articles with an ending, a full stop, or nothing at all. -/
theorem expand?_lists_denoted_of_articles :
    expand? "(?:el|la)s|\\.|" = some ["els", "las", ".", ""] ∧
      ∃ listing : Listing, listing.text = "(?:el|la)s|\\.|".toList ∧
        listing.words.length ≤ greatestValueCount ∧
        ∀ text : String, text ∈ ["els", "las", ".", ""] ↔ text.toList ∈ listing.language := by
  have expanded : expand? "(?:el|la)s|\\.|" = some ["els", "las", ".", ""] := by decide +kernel
  obtain ⟨lists, unlisted⟩ := expand?_lists_denoted "(?:el|la)s|\\.|"
  obtain ⟨⟨listing, writes⟩, denoted, -, -⟩ := lists _ expanded
  refine ⟨expanded, listing, writes, ?_, denoted listing writes⟩
  rw [← Nat.not_lt, ← unlisted listing writes, expanded]
  exact Option.some_ne_none _

end PhraseRules.Matcher
