import PhraseRules.Regex.Ast

/-!
# Faults in patterns

What can be wrong with the description of one slot of a pattern.  All of it is found when the
description is compiled.
-/

namespace PhraseRules

/-- The quantities of a slot that are counted, with no number standing for no limit. -/
inductive Quantity where
  | most
  | skip
deriving DecidableEq, Repr

/-- The name of a quantity in messages. -/
def Quantity.name : Quantity → String
  | .most => "max"
  | .skip => "skip"

/-- What can be wrong with the description of a slot. -/
inductive PatternError where
  | invalidRegex (pattern : String) (fault : Regex.Fault)
  | invertedQuantifier (least most : Nat)
  | invalidCount (quantity : Quantity) (value : Int)
  | zeroMost
  | unknownFeature (feature : String)
  | unknownClass (feature featureClass : String)
  | invalidBackReference (slot : Nat)
deriving DecidableEq, Repr

/--
The wording of a fault.  Why a regular expression is malformed is not told; `<regex>` stands in its
place.
-/
def PatternError.message : PatternError → String
  | .invalidRegex pattern _ => s!"expresión regular inválida '{pattern}': <regex>"
  | .invertedQuantifier least most => s!"cuantificador invertido: min={least} > max={most}"
  | .invalidCount quantity value => s!"valor inválido para {quantity.name}: {value}"
  | .zeroMost => "el máximo de ocurrencias no puede ser 0"
  | .unknownFeature feature => s!"rasgo de unificación no definido: {feature}"
  | .unknownClass feature featureClass =>
      s!"clase '{featureClass}' no definida para el rasgo '{feature}'"
  | .invalidBackReference slot =>
      s!"referencia inválida \\{slot}: el patrón no tiene ese token"

end PhraseRules
