import Mathlib.Data.List.Induction
import PhraseRules.Lexicon.Basic
import PhraseRules.Proofs.Distinct
import Std.Data.HashMap.Lemmas

/-!
# The indexes of a lexicon

A lexicon keeps its entries once and finds them by two indexes, of lowercase forms and of headwords.
Each index has, under a key, just the places of the entries with that key, in increasing order
(`Indexes`).  Inserting an entry keeps this, and looks for a repetition under one of the keys only,
which is enough.  So whatever was inserted is found by both (`indexes_agree_with_entries`).
-/

namespace PhraseRules

open PhraseRules.Text

/-- What stands at the places of the elements of a kind are these elements. -/
theorem filterMap_findIdxs {α : Type} (keeps : α → Bool) (elements : List α) :
    ((elements.findIdxs keeps).filterMap fun place => elements[place]?) =
      elements.filter keeps := by
  induction elements using List.reverseRecOn with
  | nil => rfl
  | append_singleton earlier last induction =>
      have sameEarlier : ∀ place ∈ earlier.findIdxs keeps,
          (earlier ++ [last])[place]? = earlier[place]? := by
        intro place member
        exact List.getElem?_append_left (by simpa using List.lt_add_of_mem_findIdxs place member)
      rw [List.findIdxs_append, List.filterMap_append, List.filterMap_congr sameEarlier, induction,
        List.filter_append, List.findIdxs_singleton, List.filter_singleton]
      cases keeps last with
      | false => rfl
      | true => simp

/-- A text taken literally accepts itself. -/
theorem Matcher.accepts_literal_self (text : String) (caseSensitive : Bool) :
    (literal text caseSensitive).accepts text = true := by
  rw [literal, accepts]
  cases text.isEmpty with
  | true => rfl
  | false => simp

namespace Lexicon

/-! ## One index -/

/-- The index has, under each key, the places of the entries with that key, and no other keys. -/
structure Indexes (index : Std.HashMap String (List Nat)) (keyOf : LexiconEntry → String)
    (entries : Array LexiconEntry) : Prop where
  places_eq : ∀ key, index.getD key [] = entries.toList.findIdxs (keyOf · == key)
  contains_iff : ∀ key, index.contains key = true ↔ ∃ entry ∈ entries.toList, keyOf entry = key

namespace Indexes

variable {index : Std.HashMap String (List Nat)} {keyOf : LexiconEntry → String}
  {entries : Array LexiconEntry}

theorem empty (keyOf : LexiconEntry → String) : Indexes ∅ keyOf #[] where
  places_eq := fun _ => Std.HashMap.getD_empty
  contains_iff := fun _ => by simp

/-- An index stays one when an entry is added behind the others and its place under its key. -/
theorem addToIndex (indexes : Indexes index keyOf entries) (entry : LexiconEntry) :
    Indexes (addToIndex index (keyOf entry) entries.size) keyOf (entries.push entry) where
  places_eq := fun key => by
    rw [Lexicon.addToIndex, Std.HashMap.getD_insert, Array.toList_push, List.findIdxs_append,
      List.findIdxs_singleton, indexes.places_eq, indexes.places_eq, Array.length_toList,
      Nat.zero_add]
    split
    case isTrue same => rw [beq_iff_eq.mp same]
    case isFalse => rw [List.append_nil]
  contains_iff := fun key => by
    rw [Lexicon.addToIndex, Std.HashMap.contains_insert, Bool.or_eq_true, indexes.contains_iff,
      beq_iff_eq, Array.toList_push]
    simp only [List.mem_append, List.mem_singleton, or_and_right, exists_or, exists_eq_left]
    exact or_comm

theorem entriesAt_eq {lexicon : Lexicon} (indexes : Indexes index keyOf lexicon.entries)
    (key : String) :
    lexicon.entriesAt (index.getD key []) =
      lexicon.entries.toList.filter (keyOf · == key) := by
  rw [entriesAt, indexes.places_eq, ← filterMap_findIdxs]
  simp only [Array.getElem?_toList]

end Indexes

/-! ## Both indexes -/

/-- Both indexes agree with the entries. -/
structure IsIndexed (lexicon : Lexicon) : Prop where
  byForm : Indexes lexicon.byForm (lowercase ·.form) lexicon.entries
  byHeadword : Indexes lexicon.byHeadword (·.headword) lexicon.entries

/-- The lexicon with further entries inserted. -/
def insertAll (lexicon : Lexicon) (entries : List LexiconEntry) : Lexicon :=
  entries.foldl (fun grown entry => grown.insert entry.form entry.headword entry.tag) lexicon

/-- The lexicon that comes of inserting entries. -/
def ofEntries (entries : List LexiconEntry) : Lexicon :=
  empty.insertAll entries

namespace IsIndexed

variable {lexicon : Lexicon}

theorem lookup_eq (indexed : lexicon.IsIndexed) (form : String) :
    lexicon.lookup form =
      lexicon.entries.toList.filter (lowercase ·.form == lowercase form) :=
  indexed.byForm.entriesAt_eq _

theorem contains_iff (indexed : lexicon.IsIndexed) (form : String) :
    lexicon.contains form = true ↔ lexicon.lookup form ≠ [] := by
  rw [contains, indexed.byForm.contains_iff, indexed.lookup_eq, Ne, List.filter_eq_nil_iff]
  simp

theorem formsOf_eq (indexed : lexicon.IsIndexed) (headword : String) (target : Matcher) :
    lexicon.formsOf headword target =
      ((lexicon.entries.toList.filter fun entry =>
        entry.headword == headword && target.accepts entry.tag).map (·.form)).eraseDups := by
  rw [formsOf, indexed.byHeadword.entriesAt_eq, distinct_eq_eraseDups, List.filter_filter]
  simp only [Bool.and_comm]

/-- A repeated entry is found under its form, so that it is enough to look there. -/
theorem mem_lookup_iff (indexed : lexicon.IsIndexed) (entry : LexiconEntry) :
    entry ∈ lexicon.lookup entry.form ↔ entry ∈ lexicon.entries.toList := by
  rw [indexed.lookup_eq, List.mem_filter, and_iff_left (beq_self_eq_true _)]

end IsIndexed

/-! ## Inserting entries -/

theorem isIndexed_empty : empty.IsIndexed where
  byForm := .empty _
  byHeadword := .empty _

namespace IsIndexed

variable {lexicon : Lexicon}

theorem insert (indexed : lexicon.IsIndexed) (entry : LexiconEntry) :
    (lexicon.insert entry.form entry.headword entry.tag).IsIndexed := by
  unfold Lexicon.insert
  extract_lets _ place
  split
  case isTrue => exact indexed
  case isFalse =>
      exact {
        byForm := indexed.byForm.addToIndex entry
        byHeadword := indexed.byHeadword.addToIndex entry }

theorem entries_insert (indexed : lexicon.IsIndexed) (entry : LexiconEntry) :
    (lexicon.insert entry.form entry.headword entry.tag).entries.toList =
      lexicon.entries.toList ++ distinctBeyond lexicon.entries.toList [entry] := by
  unfold Lexicon.insert
  extract_lets _ place
  simp only [distinctBeyond, List.contains_iff_mem]
  split
  case isTrue known =>
      rw [if_pos ((indexed.mem_lookup_iff entry).mp known), List.append_nil]
  case isFalse unknown =>
      rw [if_neg fun member => unknown ((indexed.mem_lookup_iff entry).mpr member)]
      exact Array.toList_push

theorem insertAll (indexed : lexicon.IsIndexed) (entries : List LexiconEntry) :
    (lexicon.insertAll entries).IsIndexed := by
  induction entries generalizing lexicon with
  | nil => exact indexed
  | cons entry later induction => exact induction (indexed.insert entry)

/-- Of the entries inserted, those that are new follow the others. -/
theorem entries_insertAll (indexed : lexicon.IsIndexed) (entries : List LexiconEntry) :
    (lexicon.insertAll entries).entries.toList =
      lexicon.entries.toList ++ distinctBeyond lexicon.entries.toList entries := by
  induction entries generalizing lexicon with
  | nil => exact (List.append_nil _).symm
  | cons entry later induction =>
      rw [Lexicon.insertAll, List.foldl_cons, ← Lexicon.insertAll, induction (indexed.insert entry),
        indexed.entries_insert, ← append_distinctBeyond_append, List.singleton_append]

end IsIndexed

theorem isIndexed_ofEntries (entries : List LexiconEntry) : (ofEntries entries).IsIndexed :=
  isIndexed_empty.insertAll entries

theorem entries_ofEntries (entries : List LexiconEntry) :
    (ofEntries entries).entries.toList = entries.eraseDups := by
  rw [← distinct_eq_eraseDups]
  exact isIndexed_empty.entries_insertAll entries

/-! ## What a lexicon answers -/

/-- An entry is found by its headword and its tag. -/
theorem IsIndexed.mem_formsOf {lexicon : Lexicon} (indexed : lexicon.IsIndexed)
    {entry : LexiconEntry} (member : entry ∈ lexicon.entries.toList) {target : Matcher}
    (accepts : target.accepts entry.tag = true) :
    entry.form ∈ lexicon.formsOf entry.headword target := by
  rw [indexed.formsOf_eq, List.mem_eraseDups]
  exact List.mem_map_of_mem (List.mem_filter.mpr ⟨member, by simp [accepts]⟩)

/--
Whatever is inserted, the entries of a lexicon are the different ones in the order in which they
came first, and both indexes have just their places.  So a form, whatever its case, finds all of its
entries, in that order; a headword and a condition on tags give all of its forms with such a tag,
again in that order and each once; and what is found under a form is among the forms of its own
headword and tag.
-/
theorem indexes_agree_with_entries (inserted : List LexiconEntry) :
    let lexicon := ofEntries inserted
    let entries := inserted.eraseDups
    lexicon.entries.toList = entries ∧
      (∀ key, lexicon.byForm.getD key [] = entries.findIdxs (lowercase ·.form == key)) ∧
      (∀ key, lexicon.byHeadword.getD key [] = entries.findIdxs (·.headword == key)) ∧
      (∀ form, lexicon.lookup form = entries.filter (lowercase ·.form == lowercase form)) ∧
      (∀ form, lexicon.contains form = true ↔ lexicon.lookup form ≠ []) ∧
      (∀ headword target, lexicon.synthesizer headword target =
        .ok ((entries.filter fun entry =>
          entry.headword == headword && target.accepts entry.tag).map (·.form)).eraseDups) ∧
      ∀ form, ∀ entry ∈ lexicon.lookup form, ∀ caseSensitive,
        ∃ forms, lexicon.synthesizer entry.headword (.literal entry.tag caseSensitive) = .ok forms ∧
          entry.form ∈ forms := by
  intro lexicon entries
  have indexed : lexicon.IsIndexed := isIndexed_ofEntries inserted
  have entries_eq : lexicon.entries.toList = entries := entries_ofEntries inserted
  rw [← entries_eq]
  refine ⟨rfl, indexed.byForm.places_eq, indexed.byHeadword.places_eq, indexed.lookup_eq,
    indexed.contains_iff, fun headword target => ?_, fun form entry found caseSensitive => ?_⟩
  · exact congrArg Except.ok (indexed.formsOf_eq headword target)
  · rw [indexed.lookup_eq] at found
    exact ⟨_, rfl, indexed.mem_formsOf (List.mem_filter.mp found).1
      (Matcher.accepts_literal_self entry.tag caseSensitive)⟩

/-- A noun that is inserted twice is there once, beside the verb with the same form. -/
theorem indexes_agree_with_entries_of_repeated_noun :
    let noun : LexiconEntry := ⟨"casa", "casa", "NCFS000"⟩
    let verb : LexiconEntry := ⟨"casa", "casar", "VMIP3S0"⟩
    let plural : LexiconEntry := ⟨"casas", "casa", "NCFP000"⟩
    let lexicon := ofEntries [noun, verb, plural, noun]
    lexicon.entries.toList = [noun, verb, plural] ∧ lexicon.lookup "Casa" = [noun, verb] ∧
      lexicon.contains "CASAS" = true ∧ verb ∈ lexicon.lookup "CASA" ∧
      ∃ forms, lexicon.synthesizer "casar" (.literal "VMIP3S0" true) = .ok forms ∧
        "casa" ∈ forms := by
  intro noun verb plural lexicon
  obtain ⟨entries_eq, -, -, lookup_eq, contains_iff, -, synthesized⟩ :=
    indexes_agree_with_entries [noun, verb, plural, noun]
  have found : verb ∈ lexicon.lookup "CASA" := by
    rw [lookup_eq]
    decide +kernel
  refine ⟨?_, ?_, (contains_iff "CASAS").mpr ?_, found, synthesized "CASA" verb found true⟩
  · rw [entries_eq]
    decide +kernel
  · rw [lookup_eq]
    decide +kernel
  · rw [lookup_eq]
    decide +kernel

end Lexicon

end PhraseRules
