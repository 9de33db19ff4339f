import PhraseRules.Text.Blank
import PhraseRules.Text.Casing

/-!
# Languages

Rules are independent of the language they are written for, except where they change case: a
language decides how a text gets its first letter in uppercase or in lowercase.  In Dutch the
initial letters `ij` are one letter.
-/

namespace PhraseRules

open PhraseRules.Text

/-- A language, with what changes of case depend on. -/
structure Language where
  code : String
  name : String
  /-- The text with its first letter in uppercase. -/
  uppercaseFirst : String → String
  /-- The text with its first letter in lowercase. -/
  lowercaseFirst : String → String

namespace Language

/-- A language without rules of its own. -/
def plain (code name : String) : Language :=
  ⟨code, name, uppercaseInitial, lowercaseInitial⟩

/-- The text with its first letter in uppercase, where an initial `ij` is one letter. -/
def uppercaseDigraph (text : String) : String :=
  match text.toList with
  | i :: j :: rest =>
      if (i == 'i' || i == 'I') && (j == 'j' || j == 'J') then String.ofList ('I' :: 'J' :: rest)
      else uppercaseInitial text
  | _ => uppercaseInitial text

/-- The text with its first letter in lowercase, where an initial `IJ` is one letter. -/
def lowercaseDigraph (text : String) : String :=
  match text.toList with
  | 'I' :: 'J' :: rest => String.ofList ('i' :: 'j' :: rest)
  | _ => lowercaseInitial text

/-- The language in which an initial `ij` is written as one letter. -/
def dutch : Language :=
  ⟨"nl", "Nederlands", uppercaseDigraph, lowercaseDigraph⟩

/-- The language that a code or a name stands for. -/
def ofCode? (code : String) : Option Language :=
  if ["es", "spanish", "español"].contains code then some (plain "es" "Español")
  else if ["ca", "catalan", "català"].contains code then some (plain "ca" "Català")
  else if ["en", "english"].contains code then some (plain "en" "English")
  else if ["de", "german", "deutsch"].contains code then some (plain "de" "Deutsch")
  else if ["fr", "french", "français"].contains code then some (plain "fr" "Français")
  else if ["pt", "portuguese", "português"].contains code then some (plain "pt" "Português")
  else if ["nl", "dutch", "nederlands"].contains code then some dutch
  else none

/-- The usual spelling of a code or a name of a language, whatever its case and the blanks around
it. -/
def canonicalCode (written : String) : String :=
  let code := lowercase (trim written)
  if ["es", "spanish", "espanol", "español"].contains code then "es"
  else if ["ca", "catalan", "catala", "català"].contains code then "ca"
  else if ["en", "english", "inglés", "ingles"].contains code then "en"
  else if ["nl", "dutch", "nederlands", "neerlandés"].contains code then "nl"
  else code

end Language

end PhraseRules
