import PhraseRules.Search.Query

/-!
# Marked words

A pattern can say which of its slots hold the words that it is about.  If some slot does, the words
of such slots are marked; otherwise those of the slots that do not say they are not.
-/

namespace PhraseRules

/-- Whether the words of a slot are marked, given whether any slot says that its words are. -/
def isMarked (someMarked : Bool) (slot : Slot) : Bool :=
  if someMarked then slot.marked == some true else slot.marked != some false

/-- The positions of an occurrence that are marked. -/
def markedPositions (slots : List Slot) (bindings : List Binding) : List Nat :=
  let someMarked := slots.any (·.marked == some true)
  let marked := bindings.filter fun binding => slots[binding.slot]?.any (isMarked someMarked)
  marked.map (·.position)

end PhraseRules
