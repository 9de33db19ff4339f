import PhraseRules.Unicode.Cased
import PhraseRules.Unicode.CaseMapping

/-!
# Case of whole texts

Lowercase and uppercase of a text.  Every character is mapped on its own, with one exception: a
capital sigma at the end of a word becomes the final sigma.
-/

namespace PhraseRules.Text

open PhraseRules.Unicode

/-- Whether the next character that is not passed over is cased. -/
def nextIsCased (neighbours : List Char) : Bool :=
  ((neighbours.dropWhile isCaseIgnorable).head?).any isCased

/-- The lowercase of a sigma that stands after `before`, nearest first, and before `after`. -/
def lowercaseSigma (before after : List Char) : Char :=
  if nextIsCased before && !nextIsCased after then 'ς' else 'σ'

/-- The lowercase of characters that stand after `before`, nearest first. -/
def lowercaseChars (before : List Char) : List Char → List Char
  | [] => []
  | c :: rest =>
      let image := if c = 'Σ' then [lowercaseSigma before rest] else toLowercase c
      image ++ lowercaseChars (c :: before) rest

/-- The lowercase of a text. -/
def lowercase (text : String) : String :=
  String.ofList (lowercaseChars [] text.toList)

/-- The uppercase of a text. -/
def uppercase (text : String) : String :=
  String.ofList (text.toList.flatMap toUppercase)

/-- The text with its first character in uppercase. -/
def uppercaseInitial (text : String) : String :=
  match text.toList with
  | [] => ""
  | c :: rest => String.ofList (toUppercase c ++ rest)

/-- The text with its first character in lowercase. -/
def lowercaseInitial (text : String) : String :=
  match text.toList with
  | [] => ""
  | c :: rest => String.ofList (toLowercase c ++ rest)

/-- Whether the first character is uppercase. -/
def startsUppercase (text : String) : Bool :=
  text.toList.head?.any isUppercase

end PhraseRules.Text
