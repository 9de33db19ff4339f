import Mathlib.Data.List.Basic
import PhraseRules.Text.Blank

/-!
# Lines of a text

Where two texts are joined by a line feed, the lines of the first are followed by those of the
second (`linesOf_append_cons`).  The last line of the first text is then ended by the line feed: it
is there even if it is empty, and a carriage return at its end is dropped.  Neither matters to what
is read from a line without the white space around it.
-/

namespace PhraseRules.Text

open PhraseRules.Unicode

variable {separator : Char}

/-! ## Stretches between separators -/

theorem splitAtChar_self_cons (separator : Char) (rest : List Char) :
    splitAtChar separator (separator :: rest) = [] :: splitAtChar separator rest :=
  if_pos rfl

theorem splitAtChar_ne_nil (separator : Char) (chars : List Char) :
    splitAtChar separator chars ≠ [] := by
  rw [splitAtChar.eq_def]
  split
  case h_1 => exact List.cons_ne_nil _ _
  case h_2 =>
      split
      · exact List.cons_ne_nil _ _
      · split <;> exact List.cons_ne_nil _ _

/-- A character that is no separator belongs to the first stretch. -/
theorem exists_splitAtChar_cons {c : Char} (other : c ≠ separator) (rest : List Char) :
    ∃ stretch later, splitAtChar separator rest = stretch :: later ∧
      splitAtChar separator (c :: rest) = (c :: stretch) :: later := by
  obtain ⟨stretch, later, rest_eq⟩ := List.exists_cons_of_ne_nil (splitAtChar_ne_nil separator rest)
  exact ⟨stretch, later, rest_eq, by rw [splitAtChar, if_neg other, rest_eq]⟩

theorem splitAtChar_append_cons (separator : Char) (front back : List Char) :
    splitAtChar separator (front ++ separator :: back) =
      splitAtChar separator front ++ splitAtChar separator back := by
  induction front with
  | nil => exact splitAtChar_self_cons separator back
  | cons c rest induction =>
      by_cases same : c = separator
      · rw [same, List.cons_append, splitAtChar_self_cons, splitAtChar_self_cons, induction]
        rfl
      · obtain ⟨stretch, later, rest_eq, cons_eq⟩ := exists_splitAtChar_cons same rest
        obtain ⟨whole, others, whole_eq, append_eq⟩ :=
          exists_splitAtChar_cons same (rest ++ separator :: back)
        rw [List.cons_append, append_eq, cons_eq]
        rw [whole_eq, rest_eq, List.cons_append] at induction
        obtain ⟨rfl, rfl⟩ := List.cons.inj induction
        rfl

theorem length_splitAtChar (separator : Char) (chars : List Char) :
    (splitAtChar separator chars).length = chars.count separator + 1 := by
  induction chars with
  | nil => rfl
  | cons c rest induction =>
      by_cases same : c = separator
      · rw [same, splitAtChar_self_cons, List.length_cons, induction, List.count_cons_self]
      · obtain ⟨stretch, later, rest_eq, cons_eq⟩ := exists_splitAtChar_cons same rest
        rw [rest_eq, List.length_cons] at induction
        rw [cons_eq, List.length_cons, induction, List.count_cons_of_ne same]

/-! ## Lines -/

/-- Each stretch that a line feed ends is a line; what follows the last line feed is one unless it
is empty. -/
theorem exists_linesOf_eq (chars : List Char) :
    ∃ ended final, splitAtChar '\n' chars = ended ++ [final] ∧
      linesOf chars =
        ended.map dropCarriageReturn ++ if final.isEmpty then [] else [final] := by
  obtain ⟨ended, final, split_eq⟩ :=
    (List.eq_nil_or_concat (splitAtChar '\n' chars)).resolve_left (splitAtChar_ne_nil _ _)
  rw [List.concat_eq_append] at split_eq
  refine ⟨ended, final, split_eq, ?_⟩
  rw [linesOf, split_eq, List.reverse_append, List.reverse_singleton, List.singleton_append]
  dsimp only
  rw [List.reverse_reverse]

/-- Behind a line feed the lines of a text are those of what follows. -/
theorem linesOf_append_cons (front back : List Char) :
    linesOf (front ++ '\n' :: back) =
      (splitAtChar '\n' front).map dropCarriageReturn ++ linesOf back := by
  obtain ⟨ended, final, split_eq, lines_eq⟩ := exists_linesOf_eq back
  obtain ⟨_, _, split_eq', lines_eq'⟩ := exists_linesOf_eq (front ++ '\n' :: back)
  rw [splitAtChar_append_cons, split_eq, ← List.append_assoc] at split_eq'
  obtain ⟨rfl, rfl⟩ := List.append_inj' split_eq' rfl |>.imp id List.singleton_inj.mp
  rw [lines_eq', lines_eq, List.map_append, List.append_assoc]

/-! ## White space around a line -/

/-- A carriage return at the end of a line is white space. -/
theorem trimChars_dropCarriageReturn (line : List Char) :
    trimChars (dropCarriageReturn line) = trimChars line := by
  rw [dropCarriageReturn]
  split
  case h_1 before reverse_eq =>
      have line_eq : line = before.reverse ++ ['\r'] := by
        rw [← List.reverse_reverse line, reverse_eq, List.reverse_cons]
      have blank : isWhiteSpace '\r' = true := by decide
      rw [line_eq, trimChars, trimChars, List.dropWhile_append]
      cases before.reverse.dropWhile isWhiteSpace with
      | nil => simp [blank]
      | cons c rest => simp [blank]
  case h_2 => rfl

end PhraseRules.Text
