import PhraseRules.Proofs.Slot.Hints

/-!
# When hints are needed

A word that a slot accepts has one of the forms and one of the headwords that the slot lists, as
long as the slot and those within it keep alternatives and conjuncts apart.  Lists of conjuncts are
intersected with that of their slot, which is right only if one reading has to satisfy them all:
either no conjunct lists anything, or the readings of the word do not differ in what is listed.
-/

namespace PhraseRules.Slot

/--
Of the slots within that list forms or headwords, none has alternatives beside conjuncts.  Unless
`intersects`, no list is intersected with that of a conjunct.
-/
inductive KeepsApart (inflected intersects : Bool) : Slot → Prop where
  | unlisted {slot : Slot} (nothing : slot.hints inflected = none) :
      KeepsApart inflected intersects slot
  | united {slot : Slot} (noConjuncts : slot.conjuncts = [])
      (alternatives : ∀ alternative ∈ slot.alternatives,
        KeepsApart inflected intersects alternative) :
      KeepsApart inflected intersects slot
  | joined {slot : Slot} (noAlternatives : slot.alternatives = [])
      (conjuncts : ∀ conjunct ∈ slot.conjuncts, KeepsApart inflected intersects conjunct)
      (intersected : intersects = true ∨
        ∀ conjunct ∈ slot.conjuncts, conjunct.hints inflected = none) :
      KeepsApart inflected intersects slot

variable {inflected intersects : Bool} {slot : Slot} {position : Position}

/-- The list of a slot is not shortened by conjuncts that list nothing. -/
theorem possibleValues_subset_of_hints {own listed : List String}
    (joined : slot.conjuncts ≠ [])
    (nothing : ∀ conjunct ∈ slot.conjuncts, conjunct.hints inflected = none)
    (own_eq : slot.criterion.text.possibleValues = some own)
    (hinted : slot.hints inflected = some listed) : own ⊆ listed := by
  rcases hints_eq_some hinted with ⟨-, -, -, -, -, values, values_eq, listed_eq⟩
  rcases Option.some.inj (own_eq.symm.trans values_eq) with rfl
  rw [if_neg (mt List.isEmpty_iff.mp joined), Option.some.injEq] at listed_eq
  intro text member
  rw [← listed_eq, mem_hintsOfConjuncts_iff]
  refine ⟨member, fun conjunct conjunctMember others others_eq => ?_⟩
  rw [nothing conjunct conjunctMember] at others_eq
  cases others_eq

/-- Where alternatives and conjuncts are kept apart, a slot is heard in all that it accepts. -/
theorem KeepsApart.heard (apart : KeepsApart inflected intersects slot)
    (shares : intersects = true → SharesKey inflected position) :
    Heard inflected position slot := by
  induction apart with
  | unlisted nothing => exact .unlisted nothing
  | united noConjuncts alternatives heardAlternative => exact .united noConjuncts heardAlternative
  | @joined slot noAlternatives conjuncts intersected heardConjunct =>
      have noAlternative {kept : Slot → Prop} :
          ∀ alternative ∈ slot.alternatives, kept alternative := by
        rw [noAlternatives]
        exact fun _ member => by cases member
      by_cases joined : slot.conjuncts = []
      · exact .united joined noAlternative
      cases hinted : slot.hints inflected with
      | none => exact .unlisted hinted
      | some listed =>
          rcases hints_eq_some hinted with ⟨-, -, -, -, -, own, own_eq, -⟩
          refine .intersected joined hinted own_eq noAlternative noAlternative heardConjunct ?_
          rcases intersected with intersected | nothing
          · exact Or.inl (shares intersected)
          · exact Or.inr (Or.inl (possibleValues_subset_of_hints joined nothing own_eq hinted))

/--
A word that a slot accepts has a reading with one of the forms that the slot lists, and one with one
of the headwords.
-/
theorem exists_hinted_of_accepts (accepted : slot.accepts position = true) :
    (∀ (listed : List String) (intersects : Bool), slot.formHints = some listed →
      KeepsApart false intersects slot → (intersects = true → SharesKey false position) →
        ∃ reading ∈ position.readings, reading.text ∈ listed) ∧
    ∀ (listed : List String) (intersects : Bool), slot.headwordHints = some listed →
      KeepsApart true intersects slot → (intersects = true → SharesKey true position) →
        ∃ reading ∈ position.readings, reading.headword.getD reading.text ∈ listed := by
  constructor
  · intro listed intersects hinted apart shares
    exact (apart.heard shares).hasHint hinted accepted
  · intro listed intersects hinted apart shares
    exact (apart.heard shares).hasHint hinted accepted

/-- One slot lists forms of its own and of an alternative, another one those of its conjunct too. -/
theorem exists_hinted_of_accepts_of_lists :
    ∃ united joined : Slot,
      ({ SlotSpec.word "a" with caseSensitive := true }.or
        ({ SlotSpec.word "b" with caseSensitive := true }.and (.tagged "N"))).compile =
          .ok united ∧
      ({ SlotSpec.regex "a|b" with caseSensitive := true, inflected := true }.and
        { SlotSpec.regex "b|c" with caseSensitive := true, inflected := true }).compile =
          .ok joined ∧
      united.formHints = some ["a", "b"] ∧ joined.headwordHints = some ["b"] ∧
      let position : Position := { Position.ofWord "b" 0 with
        readings := [.tagged "b" "b" "N", .tagged "b" "b" "V"] }
      (united.accepts position = true ∧ ∃ reading ∈ position.readings, reading.text ∈ ["a", "b"]) ∧
        (joined.accepts position = true ∧
          ∃ reading ∈ position.readings, reading.headword.getD reading.text ∈ ["b"]) := by
  refine ⟨_, _, rfl, rfl, by decide +kernel, by decide +kernel, ?_⟩
  intro position
  constructor
  · refine ⟨?accepted, (exists_hinted_of_accepts ?accepted).1 ["a", "b"] false ?hinted ?apart
      fun impossible => by cases impossible⟩
    case accepted => decide +kernel
    case hinted => decide +kernel
    case apart =>
        refine .united rfl fun alternative member => ?_
        rcases List.mem_singleton.mp member with rfl
        refine .joined rfl (fun conjunct member => .unlisted ?_) (Or.inr fun conjunct member => ?_)
        · rcases List.mem_singleton.mp member with rfl
          rfl
        · rcases List.mem_singleton.mp member with rfl
          rfl
  · refine ⟨?accepted, (exists_hinted_of_accepts ?accepted).2 ["b"] true ?hinted ?apart
      fun _ => ?shares⟩
    case accepted => decide +kernel
    case hinted => decide +kernel
    case apart =>
        refine .joined rfl (fun conjunct member => ?_) (Or.inl rfl)
        rcases List.mem_singleton.mp member with rfl
        exact .united rfl fun _ member => by cases member
    case shares =>
        rw [SharesKey]
        decide +kernel

/--
A slot with an alternative beside a conjunct lists its own form only, and accepts another; and of
two readings that satisfy a slot and its conjunct together, neither need have what both list.
-/
theorem exists_accepts_unhinted :
    (∃ slot,
      ({ SlotSpec.word "a" with caseSensitive := true }.and .anyWord |>.or
        { SlotSpec.word "b" with caseSensitive := true }).compile = .ok slot ∧
      slot.accepts (.ofWord "b" 0) = true ∧ slot.formHints = some ["a"] ∧
        ¬∃ reading ∈ (Position.ofWord "b" 0).readings, reading.text ∈ ["a"]) ∧
    ∃ slot,
      ({ SlotSpec.regex "a|b" with caseSensitive := true, inflected := true }.and
        { SlotSpec.regex "b|c" with caseSensitive := true, inflected := true }).compile =
          .ok slot ∧
      let position : Position := { Position.ofWord "x" 0 with
        readings := [.tagged "x" "a" "N", .tagged "x" "c" "V"] }
      slot.accepts position = true ∧ slot.headwordHints = some ["b"] ∧
        ¬∃ reading ∈ position.readings, reading.headword.getD reading.text ∈ ["b"] :=
  ⟨⟨_, rfl, by decide +kernel⟩, ⟨_, rfl, by decide +kernel⟩⟩

end PhraseRules.Slot
