import PhraseRules.Regex.Ast
import PhraseRules.Regex.DerivedProperty

/-!
# Properties by name

The sets of characters that a property escape can ask for.  Case, spaces, hyphens and underscores in
a name do not count, nor does an initial `is`.
-/

namespace PhraseRules.Regex

open PhraseRules.Unicode

/-- The names of the general categories and of their groups. -/
def categoryNames : List (List String × List Category) := [
  (["lu", "uppercaseletter"], [.uppercaseLetter]),
  (["ll", "lowercaseletter"], [.lowercaseLetter]),
  (["lt", "titlecaseletter"], [.titlecaseLetter]),
  (["lc", "casedletter"], [.uppercaseLetter, .lowercaseLetter, .titlecaseLetter]),
  (["lm", "modifierletter"], [.modifierLetter]),
  (["lo", "otherletter"], [.otherLetter]),
  (["l", "letter"],
    [.uppercaseLetter, .lowercaseLetter, .titlecaseLetter, .modifierLetter, .otherLetter]),
  (["mn", "nonspacingmark"], [.nonspacingMark]),
  (["mc", "spacingmark"], [.spacingMark]),
  (["me", "enclosingmark"], [.enclosingMark]),
  (["m", "mark", "combiningmark"], [.nonspacingMark, .spacingMark, .enclosingMark]),
  (["nd", "decimalnumber", "digit"], [.decimalNumber]),
  (["nl", "letternumber"], [.letterNumber]),
  (["no", "othernumber"], [.otherNumber]),
  (["n", "number"], [.decimalNumber, .letterNumber, .otherNumber]),
  (["pc", "connectorpunctuation"], [.connectorPunctuation]),
  (["pd", "dashpunctuation"], [.dashPunctuation]),
  (["ps", "openpunctuation"], [.openPunctuation]),
  (["pe", "closepunctuation"], [.closePunctuation]),
  (["pi", "initialpunctuation"], [.initialPunctuation]),
  (["pf", "finalpunctuation"], [.finalPunctuation]),
  (["po", "otherpunctuation"], [.otherPunctuation]),
  (["p", "punct", "punctuation"],
    [.connectorPunctuation, .dashPunctuation, .openPunctuation, .closePunctuation,
      .initialPunctuation, .finalPunctuation, .otherPunctuation]),
  (["sm", "mathsymbol"], [.mathSymbol]),
  (["sc", "currencysymbol"], [.currencySymbol]),
  (["sk", "modifiersymbol"], [.modifierSymbol]),
  (["so", "othersymbol"], [.otherSymbol]),
  (["s", "symbol"], [.mathSymbol, .currencySymbol, .modifierSymbol, .otherSymbol]),
  (["zs", "spaceseparator"], [.spaceSeparator]),
  (["zl", "lineseparator"], [.lineSeparator]),
  (["zp", "paragraphseparator"], [.paragraphSeparator]),
  (["z", "separator"], [.spaceSeparator, .lineSeparator, .paragraphSeparator]),
  (["cc", "cntrl", "control"], [.control]),
  (["cf", "format"], [.format]),
  (["co", "privateuse"], [.privateUse]),
  (["cn", "unassigned"], [.unassigned]),
  (["c", "other"], [.control, .format, .privateUse, .unassigned])]

/-- The names of the properties that hold or do not hold of a character. -/
def binaryNames : List (List String × CharProperty) := [
  (["alphabetic", "alpha"], .alphabetic),
  (["lowercase", "lower"], .lowercase),
  (["uppercase", "upper"], .uppercase),
  (["cased"], .cased),
  (["caseignorable", "ci"], .caseIgnorable),
  (["whitespace", "wspace", "space"], .whiteSpace)]

/-- The names of the sets that are neither categories nor scripts. -/
def generalNames : List (List String × CharProperty) := [
  (["any"], .any),
  (["assigned"], .assigned),
  (["ascii"], .ascii)]

/-- The entry whose names hold the given one. -/
def entryNamed? {α : Type} (name : String) (entries : List (List String × α)) : Option α :=
  (entries.find? (·.1.contains name)).map (·.2)

/-- The form of a name in which names are compared. -/
def comparableName (name : List Char) : String :=
  let (isShortened, body) := match name with
    | i :: s :: rest =>
        if (i == 'i' || i == 'I') && (s == 's' || s == 'S') then (true, rest) else (false, name)
    | short => (false, short)
  let kept := body.filter fun c => c.toNat < 128 && !(['_', '-', ' '].contains c)
  let comparable := String.ofList (kept.map Char.toLower)
  if isShortened && comparable == "c" then "isc" else comparable

/-- The property that holds or does not hold of a character, with the given name. -/
def binaryNamed? (name : String) : Option CharSet :=
  ((entryNamed? name binaryNames).map .having).or
    ((entryNamed? name derivedNames).or
      ((propertyNumber? name).map fun number => .having (.listed number)))

/-- The general category, or group of categories, with the given name. -/
def categoryNamed? (name : String) : Option CharSet :=
  ((entryNamed? name generalNames).map .having).or
    ((entryNamed? name categoryNames).map fun members => .having (.categories members))

/-- The script with the given name. -/
def scriptNamed? (name : String) : Option CharSet :=
  (scriptNumber? name).map fun number => .having (.script number)

/-- The characters that are used with the script with the given name. -/
def scriptExtensionNamed? (name : String) : Option CharSet :=
  (scriptNumber? name).map fun number => .having (.usedWithScript number)

/-- The characters that a query asks for. -/
def PropertyQuery.resolve : PropertyQuery → Option CharSet
  | .letter name => byName (comparableName [name])
  | .named name => byName (comparableName name.toList)
  | .valued name value =>
      let name := comparableName name.toList
      let value := comparableName value.toList
      if ["gc", "generalcategory"].contains name then categoryNamed? value
      else if ["sc", "script"].contains name then scriptNamed? value
      else if ["scx", "scriptextensions"].contains name then scriptExtensionNamed? value
      else none
where
  /-- The property with the given name, of whichever kind. -/
  byName (name : String) : Option CharSet :=
    (binaryNamed? name).or ((categoryNamed? name).or (scriptNamed? name))

end PhraseRules.Regex
