import PhraseRules.Regex.Compile

/-!
# Replacing matches

Every match of an expression is replaced by a text in which `$` and a number or a name stand for
what a group captured.  Braces may enclose the number or name, and `$$` stands for a single `$`.
-/

namespace PhraseRules.Regex

/-- A part of a replacement. -/
inductive ReplacementPart where
  | text (chars : List Char)
  | group (number : Nat)
  | groupNamed (name : String)
deriving DecidableEq, Repr

/-- Whether the character can be part of a reference without braces. -/
def isReferenceChar (c : Char) : Bool :=
  c.isAlphanum || c == '_'

/-- The number that a reference writes, if it writes one.  A plus sign may precede the digits. -/
def referenceNumber? : List Char → Option Nat
  | '+' :: digits => Text.wordOfDigits? digits
  | digits => Text.wordOfDigits? digits

/-- The group that a reference means. -/
def ReplacementPart.ofReference (name : List Char) : ReplacementPart :=
  match referenceNumber? name with
  | some number => .group number
  | none => .groupNamed (String.ofList name)

/-- The parts of a replacement; `fuel` bounds their number. -/
def replacementParts : (fuel : Nat) → List Char → List ReplacementPart
  | 0, _ => []
  | _ + 1, [] => []
  | fuel + 1, '$' :: '$' :: rest => .text ['$'] :: replacementParts fuel rest
  | fuel + 1, '$' :: '\x7b' :: rest =>
      match rest.dropWhile (· != '\x7d') with
      | [] => .text ['$'] :: replacementParts fuel ('\x7b' :: rest)
      | _ :: left =>
          .ofReference (rest.takeWhile (· != '\x7d')) :: replacementParts fuel left
  | fuel + 1, '$' :: rest =>
      match rest.takeWhile isReferenceChar with
      | [] => .text ['$'] :: replacementParts fuel rest
      | name =>
          .ofReference name :: replacementParts fuel (rest.dropWhile isReferenceChar)
  | fuel + 1, c :: rest => .text [c] :: replacementParts fuel rest

/-- The characters of a stretch of a text. -/
def stretchOf (text : Array Char) (start stop : Nat) : List Char :=
  (text.extract start stop).toList

/-- What the group with the given number captured, or nothing. -/
def Match.group (found : Match) (text : Array Char) (number : Nat) : List Char :=
  if number = 0 then stretchOf text found.start found.stop
  else match found.captures.find? (·.number == number) with
    | some capture => stretchOf text capture.start capture.stop
    | none => []

/-- What a part of a replacement becomes for a match. -/
def ReplacementPart.expand (part : ReplacementPart) (regex : Regex) (text : Array Char)
    (found : Match) : List Char :=
  match part with
  | .text chars => chars
  | .group number => found.group text number
  | .groupNamed name =>
      match regex.names.lookup name with
      | some number => found.group text number
      | none => []

/--
All matches from `start` on, from left to right and without overlap.  An empty match where the match
before it ended does not count.
-/
def allMatches (expr : Expr) (text : Array Char) :
    (fuel : Nat) → (start : Nat) → (lastStop : Option Nat) → List Match
  | 0, _, _ => []
  | fuel + 1, start, lastStop =>
      match expr.find? text start with
      | none => []
      | some found =>
          if found.stop = found.start ∧ some found.stop = lastStop then
            allMatches expr text fuel (start + 1) lastStop
          else
            found :: allMatches expr text fuel found.stop (some found.stop)

/-- The text from `copied` on with the matches replaced. -/
def replaceMatches (regex : Regex) (parts : List ReplacementPart) (text : Array Char)
    (copied : Nat) : List Match → List Char
  | [] => stretchOf text copied text.size
  | found :: later =>
      stretchOf text copied found.start ++
        parts.flatMap (·.expand regex text found) ++
        replaceMatches regex parts text found.stop later

/-- The text with every match replaced. -/
def replaceAll (regex : Regex) (replacement text : String) : String :=
  let chars := text.toList.toArray
  let parts := replacementParts (replacement.length + 1) replacement.toList
  let found := allMatches regex.expr chars (2 * chars.size + 2) 0 none
  String.ofList (replaceMatches regex parts chars 0 found)

end PhraseRules.Regex
