import PhraseRules.Proofs.Disambiguation
import PhraseRules.Proofs.Search.Protection

/-!
# Protecting words again

A disambiguation rule finds its words whether they are protected or not, and the lines that rules
leave in histories do not stand in its way either.  So a rule that protects words finds the same in
what it leaves of a sentence, and has nothing left to do there (`apply_immunize_again`).
-/

namespace PhraseRules

/-- Places that have been changed once are not changed again. -/
theorem foldl_modify_foldl_modify {α : Type} {change : α → α}
    (idempotent : ∀ element, change (change element) = change element) (places : List Nat)
    (elements : List α) :
    places.foldl (fun elements place => elements.modify place change)
        (places.foldl (fun elements place => elements.modify place change) elements) =
      places.foldl (fun elements place => elements.modify place change) elements := by
  refine List.ext_getElem? fun place => ?_
  rw [getElem?_foldl_modify idempotent, getElem?_foldl_modify idempotent]
  split
  case isTrue => cases elements[place]? <;> simp [idempotent]
  case isFalse => rfl

namespace DisambiguationRule

variable {rule : DisambiguationRule} {language : Language} {sentence result : Sentence}

/-- A rule has nothing left to do where it finds what it found before. -/
theorem apply_again (applied : rule.apply language sentence = .ok result)
    (same : (rule.query language).occurrences result =
      (rule.query language).occurrences sentence) :
    rule.apply language result = .ok result := by
  rcases Outcome.bind_eq_ok_iff.mp applied with ⟨found, found_eq, equal⟩
  refine Outcome.bind_eq_ok_iff.mpr ⟨found, same.trans found_eq, ?_⟩
  cases equal
  exact congrArg (fun positions => Except.ok (Sentence.mk positions))
    (foldl_modify_foldl_modify (fun _ => rule.action.applyTo_applyTo) _ _)

theorem sharesWord_immunize (line : String) (position : Position) :
    position.SharesWord (DisambiguationAction.immunize.applyTo line position) := by
  rw [DisambiguationAction.applyTo]
  split
  case isTrue => rfl
  case isFalse => rfl

theorem sharesWords_of_apply (protects : rule.action = .immunize)
    (applied : rule.apply language sentence = .ok result) : sentence.SharesWords result := by
  rcases exists_of_apply applied with ⟨length_eq, found, -, result_eq⟩
  refine List.forall₂_iff_get.mpr ⟨length_eq.symm, fun place before after => ?_⟩
  have standing := result_eq place
  rw [List.getElem?_eq_getElem before, List.getElem?_eq_getElem after, protects] at standing
  rw [List.get_eq_getElem, List.get_eq_getElem]
  split at standing
  case isTrue =>
      rw [Option.some.inj standing]
      exact sharesWord_immunize _ _
  case isFalse =>
      rw [Option.some.inj standing]
      rfl

/--
A search for which protection does not count finds the same from every place of sentences that
differ in nothing but the protection and the history of their words.  So a rule that protects words
leaves a sentence in which it has nothing to do any more.
-/
theorem apply_immunize_again :
    (∀ (query : Query) (sentence other : Sentence), query.immunity = .ignored →
      sentence.SharesWords other → ∀ start,
        query.occurrenceAt? other start = query.occurrenceAt? sentence start) ∧
    ∀ (rule : DisambiguationRule) (language : Language) (sentence result : Sentence),
      rule.action = .immunize → rule.apply language sentence = .ok result →
        rule.apply language result = .ok result := by
  constructor
  · intro query sentence other ignored shares start
    exact Query.occurrenceAt?_of_sharesWords ignored shares start
  · intro rule language sentence result protects applied
    exact apply_again applied
      (Query.occurrences_of_sharesWords rfl (sharesWords_of_apply protects applied))

/-- An article with a history is protected, and found again. -/
theorem apply_immunize_again_of_article :
    ∃ rule, DisambiguationRule.compile "PROTECT" [.word "la"] .immunize none = .ok rule ∧
      let language := Language.plain "es" "Español"
      let article := (Position.ofWord "la" 0).note "LEARNED: filter D"
      let before : Sentence := ⟨[.opening, article]⟩
      let after : Sentence := ⟨[.opening, article.immunize.note "PROTECT: immunize"]⟩
      (rule.query language).occurrenceAt? after 1 = (rule.query language).occurrenceAt? before 1 ∧
        rule.apply language before = .ok after ∧ rule.apply language after = .ok after := by
  refine ⟨_, rfl, ?_⟩
  intro language article before after
  refine ⟨apply_immunize_again.1 _ before after rfl (.cons rfl (.cons rfl .nil)) 1,
    and_iff_left_of_imp (apply_immunize_again.2 _ language before after rfl) |>.mpr ?_⟩
  simp only [DisambiguationRule.apply, Query.occurrences, before, Sentence.length,
    List.length_cons, List.length_nil, Nat.zero_add, Query.scan, Query.occurrenceAt?_eq_offers]
  decide +kernel

end DisambiguationRule

end PhraseRules
