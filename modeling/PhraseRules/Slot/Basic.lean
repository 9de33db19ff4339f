import PhraseRules.Agreement.Filter
import PhraseRules.Rendering
import PhraseRules.Slot.Criterion

/-!
# Slots

A slot is one place of a pattern.  It says which words can fill it, how often, what may stand
between them and the next slot, and which words it agrees with.
-/

namespace PhraseRules

/-- The word that an exception looks at. -/
inductive ExceptionScope where
  /-- The word in the slot. -/
  | current
  /-- The words between the slot and the next one, and the first word of that one. -/
  | next
  /-- The word before the slot. -/
  | previous
deriving DecidableEq, Repr

/-- One place of a pattern. -/
structure Slot where
  criterion : Criterion
  /-- How often the slot is filled at least; zero makes it optional. -/
  least : Nat
  /-- How often the slot is filled at most. -/
  most : Option Nat
  /-- How many words may stand between this slot and the next one. -/
  skip : Option Nat
  /-- Whether the words of the slot are marked, where the pattern says so. -/
  marked : Option Bool
  exceptions : List (ExceptionScope × Slot)
  /-- Slots that must accept the word as well. -/
  conjuncts : List Slot
  /-- Slots that may accept the word instead. -/
  alternatives : List Slot
  agreement : Option Agreement
  /-- Whether the slot stands among slots that agree without taking part. -/
  neutral : Bool
  /-- What the reference in the text of the slot is replaced by. -/
  reference : Option Rendering
deriving Repr

namespace Slot

mutual

/-- Whether the position can fill the slot. -/
def accepts (slot : Slot) (position : Position) : Bool :=
  match slot with
  | ⟨criterion, _, _, _, _, exceptions, conjuncts, alternatives, _, _, _⟩ =>
      (criterion.holds position || someAccepts alternatives position) &&
        allAccept conjuncts position &&
        !exceptionAccepts .current exceptions position

/-- Whether the position can fill one of the slots. -/
def someAccepts : List Slot → Position → Bool
  | [], _ => false
  | slot :: later, position => slot.accepts position || someAccepts later position

/-- Whether the position can fill all of the slots. -/
def allAccept : List Slot → Position → Bool
  | [], _ => true
  | slot :: later, position => slot.accepts position && allAccept later position

/-- Whether the position can fill a slot that is an exception of the given scope. -/
def exceptionAccepts (scope : ExceptionScope) :
    List (ExceptionScope × Slot) → Position → Bool
  | [], _ => false
  | (first, slot) :: later, position =>
      (first == scope && slot.accepts position) || exceptionAccepts scope later position

end

/-- Whether an exception of the scope accepts the position. -/
def excepts (slot : Slot) (scope : ExceptionScope) (position : Position) : Bool :=
  exceptionAccepts scope slot.exceptions position

/-- Whether the slot has an exception of the scope. -/
def hasExceptions (slot : Slot) (scope : ExceptionScope) : Bool :=
  slot.exceptions.any (·.1 == scope)

/-- Whether form, tag and space are as the slot itself asks for in one reading. -/
def acceptsReading (slot : Slot) (reading : Reading) (position : Position) : Bool :=
  slot.criterion.holdsOfReading reading position

/-- Whether the slot or one of its alternatives asks for such a reading. -/
def bindsReading (slot : Slot) (position : Position) (reading : Reading) : Bool :=
  slot.acceptsReading reading position ||
    slot.alternatives.any (·.acceptsReading reading position)

/-- The numbers of the elements that have a property, counted from `index`. -/
def indicesFrom {α : Type} (holds : α → Bool) (index : Nat) : List α → List Nat
  | [] => []
  | element :: later =>
      if holds element then index :: indicesFrom holds (index + 1) later
      else indicesFrom holds (index + 1) later

/--
The numbers of the readings that fill the slot.  A position that fills it without any of them, or by
its chunk alone, does so with all its readings.
-/
def boundReadings (slot : Slot) (position : Position) : List Nat :=
  let lexical := indicesFrom (slot.bindsReading position) 0 position.readings
  if lexical.isEmpty || slot.criterion.isChunkOnly then List.range position.readings.length
  else lexical

/-! ## Hints -/

/-- The elements of both sorted lists. -/
def intersectHints (first second : List String) : List String :=
  first.filter second.contains

/-- The elements of either sorted list. -/
def uniteHints (first second : List String) : List String :=
  second.foldr insertSorted first

mutual

/--
The forms, or the headwords if `inflected`, one of which a word must have to fill the slot, if they
can be listed.
-/
def hints (inflected : Bool) (slot : Slot) : Option (List String) :=
  match slot with
  | ⟨criterion, least, _, _, _, _, conjuncts, alternatives, _, _, reference⟩ =>
      if inflected != criterion.inflected || criterion.negated || least == 0 ||
          reference.isSome || criterion.chunk.isSome then
        none
      else do
        let own ← criterion.text.possibleValues
        let result ←
          if conjuncts.isEmpty then hintsOfAlternatives inflected own alternatives
          else some (hintsOfConjuncts inflected own conjuncts)
        if result.isEmpty then none else some result

/-- What is left of the hints when the conjuncts that have hints of their own are heard. -/
def hintsOfConjuncts (inflected : Bool) (own : List String) : List Slot → List String
  | [] => own
  | slot :: later =>
      match slot.hints inflected with
      | some others => hintsOfConjuncts inflected (intersectHints own others) later
      | none => hintsOfConjuncts inflected own later

/-- The hints together with those of the alternatives, if all of them have hints. -/
def hintsOfAlternatives (inflected : Bool) (own : List String) : List Slot → Option (List String)
  | [] => some own
  | slot :: later =>
      match slot.hints inflected with
      | some others => hintsOfAlternatives inflected (uniteHints own others) later
      | none => none

end

/-- The forms one of which a word must have to fill the slot, if they can be listed. -/
def formHints (slot : Slot) : Option (List String) :=
  slot.hints false

/-- The headwords one of which a word must have to fill the slot, if they can be listed. -/
def headwordHints (slot : Slot) : Option (List String) :=
  slot.hints true

/-! ## Filters -/

mutual

/-- The filters of the slot and of all slots in it. -/
def filters (slot : Slot) : List FeatureFilter :=
  match slot with
  | ⟨_, _, _, _, _, exceptions, conjuncts, alternatives, agreement, _, _⟩ =>
      (agreement.map (·.filter)).toList ++ filtersOfAll conjuncts ++
        filtersOfAll alternatives ++ filtersOfExceptions exceptions

/-- The filters of several slots. -/
def filtersOfAll : List Slot → List FeatureFilter
  | [] => []
  | slot :: later => slot.filters ++ filtersOfAll later

/-- The filters of exceptions. -/
def filtersOfExceptions : List (ExceptionScope × Slot) → List FeatureFilter
  | [] => []
  | (_, slot) :: later => slot.filters ++ filtersOfExceptions later

end

/--
The slot with another text.  It tells upper from lower case as before, and no longer refers to
another slot.
-/
def withText (slot : Slot) (pattern : String) (isRegex : Bool) : Except PatternError Slot := do
  let text ← Matcher.compile pattern isRegex slot.criterion.text.caseSensitive
  .ok { slot with criterion := { slot.criterion with text := text }, reference := none }

end Slot

end PhraseRules
