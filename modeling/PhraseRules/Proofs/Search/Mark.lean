import Mathlib.Data.List.Infix
import PhraseRules.Search.Reference

/-!
# References in texts

A reference begins with a backslash and has no other, so no two occurrences of it overlap.  A text
with one reference is divided into what stands before it and what stands behind it.
-/

namespace PhraseRules

variable {mark before after text : List Char} {sign : Char} {later : List Char}

theorem dropMark?_eq_none (differs : ¬mark <+: text) : dropMark? mark text = none := by
  rw [dropMark?, if_neg (mt List.isPrefixOf_iff_prefix.mp differs)]

theorem dropMark?_append (mark after : List Char) :
    dropMark? mark (mark ++ after) = some after := by
  rw [dropMark?, if_pos (List.isPrefixOf_iff_prefix.mpr (List.prefix_append mark after)),
    List.drop_left]

theorem splitAtMark_eq_singleton (fuel : Nat) (lacks : ¬mark <:+: text) :
    splitAtMark mark fuel text = [text] := by
  induction fuel generalizing text with
  | zero => rfl
  | succ fuel induction =>
      cases text with
      | nil => rfl
      | cons c rest =>
          rw [splitAtMark, dropMark?_eq_none (mt List.IsPrefix.isInfix lacks)]
          dsimp only
          rw [induction (mt List.infix_cons lacks)]

/-- Before its first occurrence a mark does not begin, if its first character is not repeated. -/
theorem not_begins_with_mark {c : Char} (once : sign ∉ later)
    (lacks : ¬sign :: later <:+: c :: before) :
    ¬sign :: later <+: c :: before ++ (sign :: later ++ after) := by
  rintro ⟨left, equal⟩
  rcases List.append_eq_append_iff.mp equal with ⟨others, own_eq, -⟩ | ⟨others, mark_eq, rest_eq⟩
  · exact lacks (own_eq ▸ (List.prefix_append _ others).isInfix)
  · cases others with
    | nil =>
        rw [List.append_nil] at mark_eq
        exact lacks (mark_eq ▸ List.infix_rfl)
    | cons other others =>
        obtain rfl : sign = other := (List.cons.inj rest_eq).1
        exact once ((List.cons.inj mark_eq).2 ▸ List.mem_append_right _ List.mem_cons_self)

theorem splitAtMark_append {fuel : Nat} (once : sign ∉ later)
    (lacksBefore : ¬sign :: later <:+: before) (lacksAfter : ¬sign :: later <:+: after)
    (enough : before.length < fuel) :
    splitAtMark (sign :: later) fuel (before ++ (sign :: later ++ after)) = [before, after] := by
  induction before generalizing fuel with
  | nil =>
      rcases Nat.exists_eq_add_one_of_ne_zero (Nat.ne_zero_of_lt enough) with ⟨fuel, rfl⟩
      rw [List.nil_append, List.cons_append, splitAtMark, ← List.cons_append, dropMark?_append]
      dsimp only
      rw [splitAtMark_eq_singleton fuel lacksAfter]
  | cons c before induction =>
      rcases Nat.exists_eq_add_one_of_ne_zero (Nat.ne_zero_of_lt enough) with ⟨fuel, rfl⟩
      rw [List.cons_append, splitAtMark, ← List.cons_append,
        dropMark?_eq_none (not_begins_with_mark once lacksBefore)]
      dsimp only
      rw [induction (mt List.infix_cons lacksBefore) (Nat.lt_of_succ_lt_succ enough)]

/-! ## References -/

/-- The text has a reference to the slot. -/
def RefersTo (text : String) (slot : Nat) : Prop :=
  (referenceMark slot).toList <:+: text.toList

instance (text : String) (slot : Nat) : Decidable (RefersTo text slot) :=
  inferInstanceAs (Decidable (_ <:+: _))

theorem toList_referenceMark (slot : Nat) :
    (referenceMark slot).toList = '\\' :: Nat.toDigits 10 slot := by
  have digits_eq : (toString slot).toList = Nat.toDigits 10 slot := by simp [Nat.repr]
  rw [referenceMark, String.toList_append, digits_eq]
  rfl

theorem isDigit_of_mem_toDigits {slot : Nat} {c : Char} (member : c ∈ Nat.toDigits 10 slot) :
    c.isDigit = true :=
  Nat.isDigit_of_mem_toDigits (by decide) (by decide) member

theorem exists_toList_referenceMark_eq (slot : Nat) :
    ∃ digit later, (referenceMark slot).toList = '\\' :: digit :: later ∧
      digit.isDigit = true := by
  rw [toList_referenceMark]
  cases digits_eq : Nat.toDigits 10 slot with
  | nil => exact absurd digits_eq Nat.toDigits_ne_nil
  | cons digit later =>
      exact ⟨digit, later, rfl, isDigit_of_mem_toDigits (digits_eq ▸ List.mem_cons_self)⟩

/-- A text with one reference to a slot is divided there. -/
theorem stretchesBetween_referenceMark {slot : Nat} {before after : String}
    (lacksBefore : ¬RefersTo before slot) (lacksAfter : ¬RefersTo after slot) :
    stretchesBetween (referenceMark slot) (before ++ referenceMark slot ++ after) =
      [before, after] := by
  have once : '\\' ∉ Nat.toDigits 10 slot := fun member => by
    cases isDigit_of_mem_toDigits member
  rw [RefersTo, toList_referenceMark] at lacksBefore lacksAfter
  have enough : before.toList.length < (before ++ referenceMark slot ++ after).length + 1 := by
    rw [String.length_append, String.length_append, String.length_toList]
    omega
  rw [stretchesBetween, String.toList_append, String.toList_append, List.append_assoc,
    toList_referenceMark, splitAtMark_append once lacksBefore lacksAfter enough]
  simp

/-- Nothing is written into an expression that does not refer to the slot. -/
theorem fillReferences_eq_pattern {text : Matcher} {slot : Nat} (isRegex : text.isRegex = true)
    (lacks : ¬RefersTo text.pattern slot) (expression : String) :
    fillReferences text slot expression = text.pattern := by
  rw [fillReferences, isRegex, if_pos rfl, stretchesBetween,
    splitAtMark_eq_singleton _ lacks, List.map_singleton, String.ofList_toList]
  rfl

end PhraseRules
