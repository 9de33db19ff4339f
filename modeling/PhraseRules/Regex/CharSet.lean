import PhraseRules.Unicode.Alphabetic
import PhraseRules.Unicode.CaseMapping
import PhraseRules.Unicode.Cased
import PhraseRules.Unicode.Category
import PhraseRules.Unicode.Folding
import PhraseRules.Unicode.Property
import PhraseRules.Unicode.ScriptExtension
import PhraseRules.Unicode.WhiteSpace

/-!
# Sets of characters

The sets that a regular expression can name, kept as they were built: ranges, properties, and the
operations on sets.  Membership is decided character by character.
-/

namespace PhraseRules.Regex

open PhraseRules.Unicode

/-- The properties of characters that an expression can name. -/
inductive CharProperty where
  | any
  | ascii
  | assigned
  | alphabetic
  | lowercase
  | uppercase
  | cased
  | caseIgnorable
  | whiteSpace
  /-- Letters, marks, decimal digits, connectors and joiners: what words are made of. -/
  | word
  | categories (members : List Category)
  | script (number : Nat)
  | usedWithScript (number : Nat)
  /-- A property with a table of its own. -/
  | listed (number : Nat)
  /-- The lowercase of the character is another one. -/
  | changedByLowercase
  | changedByUppercase
deriving DecidableEq, Repr

/-- The categories whose characters are part of a word besides the alphabetic ones. -/
def wordCategories : List Category :=
  [.nonspacingMark, .spacingMark, .enclosingMark, .decimalNumber, .connectorPunctuation]

/-- The characters that join the letters at their sides. -/
def joiners : List Nat := [0x200C, 0x200D]

/-- Whether the character is part of a word. -/
def isWordChar (c : Char) : Bool :=
  isAlphabetic c || wordCategories.contains (category c) || joiners.contains c.toNat

/-- Whether the character is part of a word of ASCII characters. -/
def isAsciiWordChar (c : Char) : Bool :=
  c.isAlphanum || c == '_'

/-- Whether the property holds of the character. -/
def CharProperty.holds : CharProperty → Char → Bool
  | .any, _ => true
  | .ascii, c => c.toNat < 128
  | .assigned, c => category c != .unassigned
  | .alphabetic, c => isAlphabetic c
  | .lowercase, c => isLowercase c
  | .uppercase, c => isUppercase c
  | .cased, c => isCased c
  | .caseIgnorable, c => isCaseIgnorable c
  | .whiteSpace, c => isWhiteSpace c
  | .word, c => isWordChar c
  | .categories members, c => members.contains (category c)
  | .script number, c => script? c == some number
  | .usedWithScript number, c => isUsedWithScript number c
  | .listed number, c => hasProperty number c
  | .changedByLowercase, c => toLowercase c != [c]
  | .changedByUppercase, c => toUppercase c != [c]

/-- A set of characters. -/
inductive CharSet where
  | empty
  | range (first last : Char)
  | having (quality : CharProperty)
  | union (left right : CharSet)
  | intersection (left right : CharSet)
  | difference (left right : CharSet)
  | symmetricDifference (left right : CharSet)
  | complement (set : CharSet)
  /-- The set together with all case variants of its members. -/
  | caseClosure (set : CharSet)
deriving DecidableEq, Repr, Inhabited

namespace CharSet

/-- Whether the character is a member of the set. -/
def contains : CharSet → Char → Bool
  | .empty, _ => false
  | .range first last, c => first.toNat ≤ c.toNat && c.toNat ≤ last.toNat
  | .having quality, c => quality.holds c
  | .union left right, c => left.contains c || right.contains c
  | .intersection left right, c => left.contains c && right.contains c
  | .difference left right, c => left.contains c && !right.contains c
  | .symmetricDifference left right, c => left.contains c != right.contains c
  | .complement set, c => !set.contains c
  | .caseClosure set, c => (caseVariants c).any set.contains

/-- The set of one character. -/
def single (c : Char) : CharSet :=
  .range c c

/-- The set of the characters with the listed property of the given name. -/
def listed (name : String) : CharSet :=
  match propertyNumber? name with
  | some number => .having (.listed number)
  | none => .empty

/-- The set of the characters in any of the ranges. -/
def ofRanges : List (Char × Char) → CharSet
  | [] => .empty
  | (first, last) :: later => .union (.range first last) (ofRanges later)

end CharSet

end PhraseRules.Regex
