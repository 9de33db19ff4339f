import PhraseRules.Sorted
import PhraseRules.Text.Blank
import PhraseRules.Text.Number
import PhraseRules.Unicode.Numeric

/-!
# Templates

The text of a message or a suggestion refers to slots of the pattern: a backslash and digits stand
for the words bound to the slot with that number.
-/

namespace PhraseRules

open PhraseRules.Text
open PhraseRules.Unicode

/-- A reference with the literal text before it. -/
structure TemplateReference where
  literal : List Char
  digits : List Char
deriving DecidableEq, Repr

/-- A text with references. -/
structure Template where
  references : List TemplateReference
  /-- The literal text behind the last reference. -/
  tail : List Char
deriving DecidableEq, Repr

namespace Template

/-- The references of a text; `literal` is the text before it that belongs to the first, last
character first. -/
def read (literal : List Char) (text : List Char) : Template :=
  match text with
  | [] => ⟨[], literal.reverse⟩
  | c :: rest =>
      if c = '\\' ∧ rest.head?.any isDecimalDigit then
        let later := read [] (rest.dropWhile isDecimalDigit)
        ⟨⟨literal.reverse, rest.takeWhile isDecimalDigit⟩ :: later.references, later.tail⟩
      else
        read (c :: literal) rest
termination_by text.length
decreasing_by
  · exact Nat.lt_succ_of_le (List.dropWhile_sublist isDecimalDigit).length_le
  · exact Nat.lt_succ_self _

/-- The template that a text writes. -/
def ofText (text : String) : Template :=
  read [] text.toList

end Template

namespace TemplateReference

/-- The number of the slot that is meant, if the digits write one. -/
def number? (reference : TemplateReference) : Option Nat :=
  wordOfDigits? reference.digits

/-- The number of the slot that is meant; zero, which is no slot, if the digits write none. -/
def number (reference : TemplateReference) : Nat :=
  reference.number?.getD 0

end TemplateReference

namespace Template

/-- The numbers that the references of a template write. -/
def numbers (template : Template) : List Nat :=
  template.references.filterMap TemplateReference.number?

/-- The literal text as it is written behind another text: a space that would double one is left
out. -/
def literalBehind (written literal : List Char) : List Char :=
  match literal with
  | ' ' :: rest => if written.getLast? == some ' ' then rest else literal
  | other => other

/-- A text with literal text written behind it. -/
def appendLiteral (written literal : List Char) : List Char :=
  written ++ literalBehind written literal

/-- The values of a reference as they stand in a message. -/
def joinValues (values : List String) : List Char :=
  (", ".intercalate values).toList

variable {Fault : Type} (valuesOf : Nat → Except Fault (List String))

/-- The message behind a text, with the values of each reference. -/
def fillMessage (tail : List Char) (written : List Char) :
    List TemplateReference → Except Fault (List Char)
  | [] => .ok (appendLiteral written tail)
  | reference :: later => do
      let values ← valuesOf reference.number
      fillMessage tail (appendLiteral written reference.literal ++ joinValues values) later

/-- The message that a template gives; all values of a reference are listed. -/
def message (template : Template) : Except Fault String := do
  .ok (String.ofList (← fillMessage valuesOf template.tail [] template.references))

/-- Each of the texts with the literal text and each of the values behind it, without repetitions.
-/
def extendAll (literal : List Char) (values : List String) (written : List (List Char)) :
    List (List Char) :=
  distinct (written.flatMap fun text =>
    values.map fun value => appendLiteral text literal ++ value.toList)

/-- The suggestions behind several texts, with one value of each reference. -/
def fillSuggestions (tail : List Char) (written : List (List Char)) :
    List TemplateReference → Except Fault (List (List Char))
  | [] => .ok (written.map fun text => appendLiteral text tail)
  | reference :: later => do
      let values ← valuesOf reference.number
      fillSuggestions tail (extendAll reference.literal values written) later

/-- The suggestions that a template gives: one for each choice of values, without blanks around it,
and none that is empty. -/
def suggestions (template : Template) : Except Fault (List String) := do
  let filled ← fillSuggestions valuesOf template.tail [[]] template.references
  .ok (((filled.map trimChars).filter (!·.isEmpty)).map String.ofList)

end Template

end PhraseRules
