import PhraseRules.Sorted
import PhraseRules.Unicode.Alphabetic
import PhraseRules.Unicode.Numeric

/-!
# Patterns with finitely many values

Many regular expressions only list words, such as `de|del` or `(el|la)s`.  A pattern made of plain
characters, escaped characters, alternatives and groups is expanded to the list of the texts that it
stands for, unless there are too many.
-/

namespace PhraseRules.Matcher

open PhraseRules.Unicode

/-- How many values are listed at most. -/
def greatestValueCount : Nat := 300

/-- The values, unless there are too many. -/
def unlessTooMany (values : List (List Char)) : Option (List (List Char)) :=
  if values.length > greatestValueCount then none else some values

/-- Every value of the first list followed by every value of the second. -/
def productOf (first second : List (List Char)) : List (List Char) :=
  first.flatMap fun start => second.map fun rest => start ++ rest

/-- The characters that make a pattern more than a list of words. -/
def operators : List Char :=
  ['.', '*', '+', '?', '[', ']', '\x7b', '\x7d', '^', '$']

/-- Whether a character with a backslash before it stands for itself. -/
def isPlainEscape (c : Char) : Bool :=
  !(isAlphabetic c || isNumeric c)

/--
The values of a group, up to its closing parenthesis or the end of the pattern.  `complete` are the
values of the alternatives before, `current` those of the one being read.
-/
def readValues : (fuel : Nat) → (complete current : List (List Char)) → List Char →
    Option (List (List Char) × List Char)
  | 0, _, _, _ => none
  | fuel + 1, complete, current, pattern =>
      match pattern with
      | [] => do return (← unlessTooMany (complete ++ current), [])
      | ')' :: rest => do return (← unlessTooMany (complete ++ current), ')' :: rest)
      | '|' :: rest => do
          readValues fuel (← unlessTooMany (complete ++ current)) [[]] rest
      | '(' :: rest => do
          let inner ← match rest with
            | '?' :: ':' :: inner => some inner
            | '?' :: _ => none
            | inner => some inner
          match ← readValues fuel [] [[]] inner with
          | (values, ')' :: left) => do
              readValues fuel complete (← unlessTooMany (productOf current values)) left
          | _ => none
      | '\\' :: rest =>
          match rest with
          | [] => none
          | c :: left =>
              if isPlainEscape c then
                readValues fuel complete (productOf current [[c]]) left
              else none
      | c :: rest =>
          if operators.contains c then none
          else readValues fuel complete (productOf current [[c]]) rest

/-- The texts that a pattern stands for, if it only lists texts and there are not too many. -/
def expand? (pattern : String) : Option (List String) := do
  let chars := pattern.toList
  match ← readValues (chars.length + 1) [] [[]] chars with
  | (values, []) => some (distinct (values.map String.ofList))
  | _ => none

end PhraseRules.Matcher
