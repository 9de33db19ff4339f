import PhraseRules.Regex.CharSet

/-!
# Regular expressions

What a regular expression asks for, with all flags resolved: sets of characters, assertions about
places, sequences, ordered choices, repetitions and captured groups.
-/

namespace PhraseRules.Regex

/-- Which characters an assertion takes for parts of words. -/
inductive Alphabet where
  | unicode
  | ascii
deriving DecidableEq, Repr

/-- An assertion about a place between two characters. -/
inductive Look where
  | textStart
  | textEnd
  | lineStart
  | lineEnd
  /-- As `lineStart`, where a carriage return and a line feed end one line together. -/
  | lineStartCrlf
  | lineEndCrlf
  | wordBoundary (alphabet : Alphabet)
  | notWordBoundary (alphabet : Alphabet)
  | wordStart (alphabet : Alphabet)
  | wordEnd (alphabet : Alphabet)
  | wordStartHalf (alphabet : Alphabet)
  | wordEndHalf (alphabet : Alphabet)
deriving DecidableEq, Repr

/-- A regular expression. -/
inductive Expr where
  | empty
  | chars (set : CharSet)
  | look (look : Look)
  | concat (first second : Expr)
  /-- A choice that prefers its left side. -/
  | choice (left right : Expr)
  /-- At least `least` and at most `most` times; a greedy repetition prefers more times. -/
  | repetition (body : Expr) (least : Nat) (most : Option Nat) (greedy : Bool)
  /-- The stretch that the body matches is remembered under the number. -/
  | capture (number : Nat) (body : Expr)
deriving DecidableEq, Repr, Inhabited

/-- Whether the character is part of a word. -/
def Alphabet.isWordChar : Alphabet → Char → Bool
  | .unicode, c => Regex.isWordChar c
  | .ascii, c => isAsciiWordChar c

/-- Whether the assertion holds between the characters `before` and `after`. -/
def Look.holds (look : Look) (before after : Option Char) : Bool :=
  match look with
  | .textStart => before.isNone
  | .textEnd => after.isNone
  | .lineStart => before.isNone || before == some '\n'
  | .lineEnd => after.isNone || after == some '\n'
  | .lineStartCrlf =>
      before.isNone || before == some '\n' || (before == some '\r' && after != some '\n')
  | .lineEndCrlf =>
      after.isNone || after == some '\r' || (after == some '\n' && before != some '\r')
  | .wordBoundary alphabet => before.any alphabet.isWordChar != after.any alphabet.isWordChar
  | .notWordBoundary alphabet => before.any alphabet.isWordChar == after.any alphabet.isWordChar
  | .wordStart alphabet => !before.any alphabet.isWordChar && after.any alphabet.isWordChar
  | .wordEnd alphabet => before.any alphabet.isWordChar && !after.any alphabet.isWordChar
  | .wordStartHalf alphabet => !before.any alphabet.isWordChar
  | .wordEndHalf alphabet => !after.any alphabet.isWordChar

namespace Expr

/-- The expressions one after another. -/
def sequence : List Expr → Expr
  | [] => .empty
  | [only] => only
  | first :: later => .concat first (sequence later)

/-- The choice of the expressions that prefers earlier ones. -/
def firstOf : List Expr → Expr
  | [] => .empty
  | [only] => only
  | first :: later => .choice first (firstOf later)

end Expr

end PhraseRules.Regex
