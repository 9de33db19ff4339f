import PhraseRules.Search.Query

/-!
# Slots that refer to others

The text of a slot may hold a reference, a backslash and the number of an earlier slot.  Before
such a slot is filled the reference is replaced by the forms of the word bound there.
-/

namespace PhraseRules

/-- The text behind a mark that begins it, if the mark does. -/
def dropMark? (mark : List Char) (text : List Char) : Option (List Char) :=
  if mark.isPrefixOf text then some (text.drop mark.length) else none

/--
The stretches of a text between the occurrences of a mark, which are found from left to right
without overlap; `fuel` bounds their number.
-/
def splitAtMark (mark : List Char) : (fuel : Nat) → List Char → List (List Char)
  | 0, text => [text]
  | _ + 1, [] => [[]]
  | fuel + 1, c :: rest =>
      match dropMark? mark (c :: rest) with
      | some left => [] :: splitAtMark mark fuel left
      | none =>
          match splitAtMark mark fuel rest with
          | [] => [[c]]
          | stretch :: later => (c :: stretch) :: later

/-- The stretches of a text between the occurrences of a mark. -/
def stretchesBetween (mark text : String) : List String :=
  (splitAtMark mark.toList (text.length + 1) text.toList).map String.ofList

/-- The reference to a slot, as it is written in texts. -/
def referenceMark (slot : Nat) : String :=
  s!"\\{slot}"

/-- The expression that matches any of the forms literally. -/
def expressionOfForms (forms : List String) : String :=
  "(?:" ++ "|".intercalate (forms.map Regex.escape) ++ ")"

/-- The pattern with the expression in place of the references to a slot. -/
def fillReferences (text : Matcher) (slot : Nat) (expression : String) : String :=
  let stretches := stretchesBetween (referenceMark slot) text.pattern
  expression.intercalate (if text.isRegex then stretches else stretches.map Regex.escape)

namespace Query

/-- The texts of the word bound to the slot that a reference means, if one is bound. -/
def referenceTexts (query : Query) (reference : Rendering) (positions : List Position)
    (binding : Binding) : Except SearchError (List String) :=
  let position := positions[binding.position]?.getD default
  let readings := binding.readings.filterMap (position.readings[·]?)
  match reference.texts query.synthesizer query.language position readings [] with
  | .ok texts => .ok texts
  | .error failure => .error (.synthesis failure)

/--
The slot with the given number, ready to be filled.  There is none if the slot that it refers to is
not bound, or its word has no forms.
-/
def resolve (query : Query) (index : Nat) (slot : Slot) (positions : List Position)
    (bindings : List Binding) : Except SearchError (Option Slot) :=
  match slot.reference with
  | none => .ok (some slot)
  | some reference =>
      if reference.slot = 0 ∨ index < reference.slot then
        .error (.reference index (.invalidBackReference reference.slot))
      else
        match bindings.find? (·.slot == reference.slot - 1) with
        | none => .ok none
        | some binding => do
            let texts ← query.referenceTexts reference positions binding
            if texts.isEmpty then .ok none
            else
              let pattern :=
                fillReferences slot.criterion.text reference.slot (expressionOfForms texts)
              match slot.withText pattern true with
              | .ok filled => .ok (some filled)
              | .error fault => .error (.reference index fault)

end Query

end PhraseRules
