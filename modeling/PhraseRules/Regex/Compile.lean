import PhraseRules.Regex.Meaning
import PhraseRules.Regex.Parser
import PhraseRules.Regex.Search
import PhraseRules.Regex.Size

/-!
# Regular expressions from their texts

A text is read as an expression in two steps: its parts, and what they mean.  An expression that
would take too much room is refused.  The result is what searches run with.
-/

namespace PhraseRules

/-- A regular expression that is ready to be searched for. -/
structure Regex where
  expr : Regex.Expr
  /-- The names of captured groups, with their numbers. -/
  names : List (String × Nat)
deriving DecidableEq, Repr, Inhabited

namespace Regex

/-- The regular expression that a text writes. -/
def compile (text : String) : Except Fault Regex := do
  let ast ← Ast.parse text.toList
  let (expr, context) ← ast.expr ⟨.initial, 0, []⟩
  if expr.fits then .ok ⟨expr, context.names⟩ else .error .tooLarge

/-- Whether the expression matches somewhere in the text. -/
def isMatch (regex : Regex) (text : String) : Bool :=
  (regex.expr.find? text.toList.toArray 0).isSome

/-- The text with a backslash before every character that would have a meaning of its own. -/
def escape (text : String) : String :=
  String.ofList <| text.toList.flatMap fun c =>
    if metaCharacters.contains c then ['\\', c] else [c]

end Regex

end PhraseRules
