import PhraseRules.Slot.Basic

/-!
# What fills a slot

A word fills a slot if it fits the slot itself or one of its alternatives, fits all conjuncts and
fits no current exception: `Slot.accepts_iff` says so of the lists as a whole.
-/

namespace PhraseRules.Slot

theorem someAccepts_eq_any (slots : List Slot) (position : Position) :
    someAccepts slots position = slots.any (·.accepts position) := by
  induction slots with
  | nil => rfl
  | cons slot later induction => rw [someAccepts, induction, List.any_cons]

theorem allAccept_eq_all (slots : List Slot) (position : Position) :
    allAccept slots position = slots.all (·.accepts position) := by
  induction slots with
  | nil => rfl
  | cons slot later induction => rw [allAccept, induction, List.all_cons]

theorem exceptionAccepts_eq_any (scope : ExceptionScope) (exceptions : List (ExceptionScope × Slot))
    (position : Position) :
    exceptionAccepts scope exceptions position =
      exceptions.any fun exception => exception.1 == scope && exception.2.accepts position := by
  induction exceptions with
  | nil => rfl
  | cons exception later induction => rw [exceptionAccepts, induction, List.any_cons]

/-- A slot without exceptions of a scope excepts nothing for it. -/
theorem excepts_eq_false {slot : Slot} {scope : ExceptionScope}
    (none : slot.hasExceptions scope = false) (position : Position) :
    slot.excepts scope position = false := by
  rw [hasExceptions, List.any_eq_false] at none
  rw [excepts, exceptionAccepts_eq_any, List.any_eq_false]
  intro exception member
  rw [Bool.and_eq_true, not_and]
  exact fun inScope => absurd inScope (none exception member)

/-- A slot is filled if the word fits it or an alternative, fits all conjuncts and no exception. -/
theorem accepts_iff {slot : Slot} {position : Position} :
    slot.accepts position = true ↔
      (slot.criterion.holds position = true ∨
          ∃ alternative ∈ slot.alternatives, alternative.accepts position = true) ∧
        (∀ conjunct ∈ slot.conjuncts, conjunct.accepts position = true) ∧
          slot.excepts .current position = false := by
  rcases slot with ⟨criterion, _, _, _, _, exceptions, conjuncts, alternatives, _, _, _⟩
  rw [accepts, someAccepts_eq_any, allAccept_eq_all]
  simp [excepts, and_assoc]

/-- What a slot that accepts a word finds: itself or an alternative, and all conjuncts. -/
theorem accepted_by {slot : Slot} {position : Position} (accepted : slot.accepts position = true) :
    (slot.criterion.holds position = true ∨
        ∃ alternative ∈ slot.alternatives, alternative.accepts position = true) ∧
      ∀ conjunct ∈ slot.conjuncts, conjunct.accepts position = true := by
  rcases accepts_iff.mp accepted with ⟨fills, joined, -⟩
  exact ⟨fills, joined⟩

end PhraseRules.Slot
