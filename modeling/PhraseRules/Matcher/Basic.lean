import PhraseRules.Matcher.Alternatives
import PhraseRules.PatternError
import PhraseRules.Regex.Compile
import PhraseRules.Sorted
import PhraseRules.Text.Casing

/-!
# Matchers

A matcher is a condition on a word or a tag: it is a certain text, or one of several, or a regular
expression matches all of it.  The empty pattern asks for nothing.
-/

namespace PhraseRules

open PhraseRules.Text

/-- How the condition of a matcher is tested. -/
inductive MatcherTest where
  | anything
  | exactly
  /-- One of the values, which are in lowercase where case does not count. -/
  | oneOf (values : List String)
  | expression (regex : Regex)
deriving DecidableEq, Repr

/-- A condition on a text. -/
structure Matcher where
  pattern : String
  isRegex : Bool
  caseSensitive : Bool
  test : MatcherTest
deriving DecidableEq, Repr

namespace Matcher

/-- The matcher of a pattern that is taken literally. -/
def literal (pattern : String) (caseSensitive : Bool) : Matcher :=
  ⟨pattern, false, caseSensitive, if pattern.isEmpty then .anything else .exactly⟩

/-- The expression that matches the whole of a text; the pattern is written into it as it stands. -/
def anchored (pattern : String) (caseSensitive : Bool) : String :=
  (if caseSensitive then "^(?:" else "(?i)^(?:") ++ pattern ++ ")$"

/-- The test of a pattern that is a regular expression. -/
def regexTest (pattern : String) (caseSensitive : Bool) : Except PatternError MatcherTest :=
  if pattern.isEmpty then .ok .anything
  else match expand? pattern with
    | some values => .ok (.oneOf (if caseSensitive then values else values.map lowercase))
    | none =>
        match Regex.compile (anchored pattern caseSensitive) with
        | .ok regex => .ok (.expression regex)
        | .error fault => .error (.invalidRegex pattern fault)

/-- The matcher of a pattern. -/
def compile (pattern : String) (isRegex caseSensitive : Bool) : Except PatternError Matcher :=
  if isRegex then do
    .ok ⟨pattern, true, caseSensitive, ← regexTest pattern caseSensitive⟩
  else
    .ok (literal pattern caseSensitive)

/-- The matcher of a regular expression that tells upper from lower case, as tags do. -/
def regex (pattern : String) : Except PatternError Matcher :=
  compile pattern true true

/-- Whether the text meets the condition. -/
def accepts (matcher : Matcher) (text : String) : Bool :=
  match matcher.test with
  | .anything => true
  | .exactly =>
      matcher.pattern == text ||
        (!matcher.caseSensitive && lowercase matcher.pattern == lowercase text)
  | .oneOf values => values.contains (if matcher.caseSensitive then text else lowercase text)
  | .expression regex => regex.isMatch text

/-- Whether the matcher asks for nothing. -/
def isEmpty (matcher : Matcher) : Bool :=
  match matcher.test with
  | .anything => true
  | .exactly | .oneOf _ | .expression _ => false

/-- The texts that meet the condition, sorted, if they can be listed and case counts. -/
def possibleValues (matcher : Matcher) : Option (List String) :=
  if !matcher.caseSensitive then none
  else match matcher.test with
    | .exactly => some [matcher.pattern]
    | .oneOf values => some (sortDistinct values)
    | .anything | .expression _ => none

end Matcher

end PhraseRules
