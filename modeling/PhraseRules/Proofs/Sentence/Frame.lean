import PhraseRules.Sentence.Basic

/-!
# What may change in a position

The stages of an analysis leave the words of a sentence where they are: they add readings, drop some
again, or protect a word from error rules.  `Position.SharesFrame` says that nothing else changes,
`Position.Narrows` that readings are only dropped and protection is only given.
-/

namespace PhraseRules.Position

/-- The positions differ in nothing but readings, protection and history. -/
def SharesFrame (before after : Position) : Prop :=
  after = { before with
    readings := after.readings, immune := after.immune, history := after.history }

/-- The readings are others than before, or the protection is. -/
def Differs (before after : Position) : Prop :=
  after.readings ≠ before.readings ∨ after.immune ≠ before.immune
deriving Decidable

/-- Readings are dropped, but never all of them, and protection is not taken away. -/
structure Narrows (before after : Position) : Prop where
  sharesFrame : before.SharesFrame after
  sublist : after.readings.Sublist before.readings
  nonempty : before.readings ≠ [] → after.readings ≠ []
  immune : before.immune = true → after.immune = true

variable {first second third : Position}

namespace SharesFrame

theorem refl (position : Position) : position.SharesFrame position :=
  rfl

theorem trans (shares : first.SharesFrame second) (sharesOn : second.SharesFrame third) :
    first.SharesFrame third := by
  rw [SharesFrame] at shares sharesOn ⊢
  rw [shares] at sharesOn
  exact sharesOn

theorem text_eq (shares : first.SharesFrame second) : second.text = first.text := by
  rw [shares]

theorem start_eq (shares : first.SharesFrame second) : second.start = first.start := by
  rw [shares]

theorem sentenceStart_eq (shares : first.SharesFrame second) :
    second.sentenceStart = first.sentenceStart := by
  rw [shares]

theorem spaceBefore_eq (shares : first.SharesFrame second) :
    second.spaceBefore = first.spaceBefore := by
  rw [shares]

theorem stop_eq (shares : first.SharesFrame second) : second.stop = first.stop := by
  rw [stop, stop, shares.text_eq, shares.start_eq]

end SharesFrame

theorem not_differs (position : Position) : ¬position.Differs position := by
  simp [Differs]

namespace Narrows

theorem refl (position : Position) : position.Narrows position where
  sharesFrame := .refl position
  sublist := .refl _
  nonempty := id
  immune := id

theorem trans (narrows : first.Narrows second) (narrowsOn : second.Narrows third) :
    first.Narrows third where
  sharesFrame := narrows.sharesFrame.trans narrowsOn.sharesFrame
  sublist := narrowsOn.sublist.trans narrows.sublist
  nonempty := narrowsOn.nonempty ∘ narrows.nonempty
  immune := narrowsOn.immune ∘ narrows.immune

end Narrows

end PhraseRules.Position
