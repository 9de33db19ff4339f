import PhraseRules.Language
import PhraseRules.Unicode.Alphabetic

/-!
# Conversions of case

A suggested form can be written in another case than it is listed in, or in the case of the word
that it replaces.
-/

namespace PhraseRules

open PhraseRules.Text
open PhraseRules.Unicode

/-- The ways to change the case of a form. -/
inductive CaseConversion where
  | unchanged
  | startUpper
  | startLower
  | allUpper
  | allLower
  /-- The case of the word in the text. -/
  | preserve
deriving DecidableEq, Repr, Inhabited

namespace CaseConversion

/-- Whether the sample has letters and none of them is lowercase. -/
def isAllUppercase (sample : String) : Bool :=
  sample.toList.any isAlphabetic && !sample.toList.any isLowercase

/-- Whether the sample has letters and none of them is uppercase. -/
def isAllLowercase (sample : String) : Bool :=
  sample.toList.any isAlphabetic && !sample.toList.any isUppercase

/-- The conversion that gives a form the case of the sample. -/
def ofSample (sample : String) : CaseConversion :=
  if isAllUppercase sample then .allUpper
  else if startsUppercase sample then .startUpper
  else if isAllLowercase sample then .allLower
  else .unchanged

/-- Changes the case of a form; `preserve` leaves it as it is. -/
def applyPlain (conversion : CaseConversion) (language : Language) (form : String) : String :=
  match conversion with
  | .startUpper => language.uppercaseFirst form
  | .startLower => language.lowercaseFirst form
  | .allUpper => uppercase form
  | .allLower => lowercase form
  | .unchanged | .preserve => form

/-- Changes the case of a form that replaces the sample.  An empty form stays empty, whatever the
language does with it. -/
def apply (conversion : CaseConversion) (language : Language) (sample form : String) : String :=
  if form.isEmpty then ""
  else match conversion with
    | .preserve => (ofSample sample).applyPlain language form
    | other => other.applyPlain language form

@[simp]
theorem apply_unchanged (language : Language) (sample form : String) :
    unchanged.apply language sample form = form := by
  unfold apply
  split
  case isTrue empty => exact (String.isEmpty_iff.mp empty).symm
  case isFalse => rfl

end CaseConversion

end PhraseRules
