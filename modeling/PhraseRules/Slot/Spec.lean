import PhraseRules.Slot.Basic
import PhraseRules.Text.Blank

/-!
# Descriptions of slots

Rules are written with descriptions of slots: plain data that nobody has checked yet.  A description
is compiled once, and everything that is wrong with it is found then.
-/

namespace PhraseRules

/-- The description of a slot. -/
structure SlotSpec where
  text : String
  isRegex : Bool
  caseSensitive : Bool
  inflected : Bool
  negated : Bool
  tag : Option String
  tagIsRegex : Bool
  tagNegated : Bool
  chunk : Option String
  chunkIsRegex : Bool
  spaceBefore : Option Bool
  least : Nat
  /-- How often the slot is filled at most; -1 for no limit. -/
  most : Int
  /-- How many words may follow before the next slot; -1 for any number. -/
  skip : Int
  marked : Option Bool
  exceptions : List (ExceptionScope × SlotSpec)
  conjuncts : List SlotSpec
  alternatives : List SlotSpec
  agreement : Option Agreement
  neutral : Bool
  reference : Option Rendering
deriving Repr

namespace SlotSpec

/-- The slot that any one word fills. -/
def anyWord : SlotSpec where
  text := ""
  isRegex := false
  caseSensitive := false
  inflected := false
  negated := false
  tag := none
  tagIsRegex := false
  tagNegated := false
  chunk := none
  chunkIsRegex := false
  spaceBefore := none
  least := 1
  most := 1
  skip := 0
  marked := none
  exceptions := []
  conjuncts := []
  alternatives := []
  agreement := none
  neutral := false
  reference := none

/-- The slot for a word, in upper or lower case. -/
def word (text : String) : SlotSpec :=
  { anyWord with text := text }

/-- The slot for the words that an expression matches as a whole. -/
def regex (pattern : String) : SlotSpec :=
  { anyWord with text := pattern, isRegex := true }

/-- Asks for a tag. -/
def withTag (spec : SlotSpec) (tag : String) : SlotSpec :=
  { spec with tag := some tag, tagIsRegex := false }

/-- Asks for a tag that an expression matches. -/
def withTagRegex (spec : SlotSpec) (pattern : String) : SlotSpec :=
  { spec with tag := some pattern, tagIsRegex := true }

/-- Asks for a chunk.  A chunk that was asked for by an expression stays an expression. -/
def withChunk (spec : SlotSpec) (tag : String) : SlotSpec :=
  { spec with chunk := some tag }

/-- Asks for a chunk that an expression matches. -/
def withChunkRegex (spec : SlotSpec) (pattern : String) : SlotSpec :=
  { spec with chunk := some pattern, chunkIsRegex := true }

/-- The slot for the words under a headword. -/
def headword (headword : String) : SlotSpec :=
  { word headword with inflected := true }

/-- The slot for the words with a tag. -/
def tagged (tag : String) : SlotSpec :=
  anyWord.withTag tag

/-- The slot for the empty position that opens a sentence. -/
def opening : SlotSpec :=
  tagged sentenceStartTag

/-- Adds an exception. -/
def except (spec : SlotSpec) (scope : ExceptionScope) (exception : SlotSpec) : SlotSpec :=
  { spec with exceptions := spec.exceptions ++ [(scope, exception)] }

/-- Adds a condition that must hold as well. -/
def and (spec conjunct : SlotSpec) : SlotSpec :=
  { spec with conjuncts := spec.conjuncts ++ [conjunct] }

/-- Adds a condition that may hold instead. -/
def or (spec alternative : SlotSpec) : SlotSpec :=
  { spec with alternatives := spec.alternatives ++ [alternative] }

/-! ## Compilation -/

/-- The number that a limit stands for; -1 stands for none. -/
def limitOf (quantity : Quantity) (value : Int) : Except PatternError (Option Nat) :=
  if value = -1 then .ok none
  else if 0 ≤ value then .ok (some value.toNat)
  else .error (.invalidCount quantity value)

/-- How often a slot can be filled at most, when it has to be at least `least` times. -/
def compileMost (least : Nat) (value : Int) : Except PatternError (Option Nat) := do
  if value = 0 then .error .zeroMost
  else match ← limitOf .most value with
    | none => .ok none
    | some most => if least > most then .error (.invertedQuantifier least most) else .ok (some most)

/-- The matcher for chunks that a description may ask for. -/
def compileChunk (isRegex : Bool) : Option String → Except PatternError (Option Matcher)
  | none => .ok none
  | some tag => do .ok (some (← Matcher.compile tag isRegex true))

/-- The condition on tags that a description may ask for. -/
def compileTag (isRegex negated : Bool) : Option String → Except PatternError (Option TagCriterion)
  | none => .ok none
  | some tag => do .ok (some (← TagCriterion.compile tag isRegex negated))

mutual

/-- The slot that a description asks for. -/
def compile (spec : SlotSpec) : Except PatternError Slot :=
  match spec with
  | ⟨text, isRegex, caseSensitive, inflected, negated, tag, tagIsRegex, tagNegated, chunk,
      chunkIsRegex, spaceBefore, least, most, skip, marked, exceptions, conjuncts, alternatives,
      agreement, neutral, reference⟩ => do
      let text ← Matcher.compile (Text.trim text) isRegex caseSensitive
      let tag ← compileTag tagIsRegex tagNegated tag
      let chunk ← compileChunk chunkIsRegex chunk
      let most ← compileMost least most
      let skip ← limitOf .skip skip
      let exceptions ← compileExceptions exceptions
      let conjuncts ← compileAll conjuncts
      let alternatives ← compileAll alternatives
      .ok {
        criterion := ⟨text, inflected, negated, tag, chunk, spaceBefore⟩
        least, most, skip, marked, exceptions, conjuncts, alternatives, agreement, neutral
        reference }

/-- The slots that several descriptions ask for. -/
def compileAll : List SlotSpec → Except PatternError (List Slot)
  | [] => .ok []
  | spec :: later => do .ok ((← spec.compile) :: (← compileAll later))

/-- The exceptions that descriptions ask for. -/
def compileExceptions :
    List (ExceptionScope × SlotSpec) → Except PatternError (List (ExceptionScope × Slot))
  | [] => .ok []
  | (scope, spec) :: later => do
      .ok ((scope, ← spec.compile) :: (← compileExceptions later))

end

end SlotSpec

end PhraseRules
