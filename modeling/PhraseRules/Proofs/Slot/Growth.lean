import PhraseRules.Proofs.Disambiguation
import PhraseRules.Proofs.Slot.Acceptance

/-!
# Words with more readings

A slot asks whether some reading of a word is as wanted, also where a form or a tag is not wanted.
So a word that fills it goes on to fill it with further readings and chunks, and only an exception
can stand against this.  `Slot.accepts_with_more` says so of slots without current exceptions at
any depth; a disambiguation, which takes readings away, then never makes a word fill such a slot.
-/

namespace PhraseRules

/-- The words stand alike, and one has all the readings and chunks of the other. -/
structure Position.GrowsTo (position other : Position) : Prop where
  sentenceStart_eq : other.sentenceStart = position.sentenceStart
  sentenceEnd_eq : other.sentenceEnd = position.sentenceEnd
  paragraphEnd_eq : other.paragraphEnd = position.paragraphEnd
  spaceBefore_eq : other.spaceBefore = position.spaceBefore
  readings_subset : position.readings ⊆ other.readings
  chunks_subset : position.chunks ⊆ other.chunks

namespace Position

variable {position other : Position}

/-- A word grows back to what it was before it was narrowed. -/
theorem Narrows.growsTo (narrows : position.Narrows other) : other.GrowsTo position := by
  have frame := narrows.sharesFrame
  rw [SharesFrame] at frame
  rw [frame]
  exact ⟨rfl, rfl, rfl, rfl, narrows.sublist.subset, List.Subset.refl _⟩

/-! ## Criteria -/

theorem GrowsTo.holds_boundary (grows : position.GrowsTo other) (boundary : Boundary) :
    boundary.holds other = boundary.holds position := by
  cases boundary with
  | sentenceStart => exact grows.sentenceStart_eq
  | sentenceEnd => exact grows.sentenceEnd_eq
  | paragraphEnd => exact grows.paragraphEnd_eq

theorem GrowsTo.holds_tag (grows : position.GrowsTo other) (criterion : TagCriterion)
    (reading : Reading) : criterion.holds reading other = criterion.holds reading position := by
  simp only [TagCriterion.holds, grows.holds_boundary]

/-- What is asked of one reading does not depend on the others. -/
theorem GrowsTo.holdsOfReading (grows : position.GrowsTo other) (criterion : Criterion)
    (reading : Reading) :
    criterion.holdsOfReading reading other = criterion.holdsOfReading reading position := by
  simp only [Criterion.holdsOfReading, grows.holds_tag, grows.spaceBefore_eq]

theorem GrowsTo.holdsOfSomeReading (grows : position.GrowsTo other) {criterion : Criterion}
    (holds : criterion.holdsOfSomeReading position = true) :
    criterion.holdsOfSomeReading other = true := by
  obtain ⟨reading, member, holdsOf⟩ := List.any_eq_true.mp holds
  refine List.any_eq_true.mpr ⟨reading, grows.readings_subset member, ?_⟩
  rw [grows.holdsOfReading]
  exact holdsOf

theorem GrowsTo.holds (grows : position.GrowsTo other) {criterion : Criterion}
    (holds : criterion.holds position = true) : criterion.holds other = true := by
  cases chunk_eq : criterion.chunk with
  | none =>
      rw [Criterion.holds, chunk_eq] at holds ⊢
      exact grows.holdsOfSomeReading holds
  | some chunk =>
      simp only [Criterion.holds, chunk_eq, Bool.or_eq_true, Bool.and_eq_true] at holds ⊢
      rcases holds with inChunk | ⟨lexical, holdsOfSome⟩
      · obtain ⟨tag, member, accepted⟩ := List.any_eq_true.mp inChunk
        exact Or.inl (List.any_eq_true.mpr ⟨tag, grows.chunks_subset member, accepted⟩)
      · exact Or.inr ⟨lexical, grows.holdsOfSomeReading holdsOfSome⟩

end Position

/-! ## Slots -/

namespace Slot

variable {slot : Slot} {position other : Position}

/-- The slot has no current exception, nor has any slot among its conjuncts and alternatives. -/
inductive Unexcepted : Slot → Prop where
  | intro {slot : Slot} (unexcepted : slot.hasExceptions .current = false)
      (conjuncts : ∀ conjunct ∈ slot.conjuncts, Unexcepted conjunct)
      (alternatives : ∀ alternative ∈ slot.alternatives, Unexcepted alternative) :
      Unexcepted slot

/-- A word that fills a slot without exceptions fills it with more readings and chunks. -/
theorem Unexcepted.accepts_of_growsTo (unexcepted : slot.Unexcepted)
    (grows : position.GrowsTo other) (accepted : slot.accepts position = true) :
    slot.accepts other = true := by
  induction unexcepted with
  | @intro slot noneCurrent _ _ conjunct_accepts alternative_accepts =>
      obtain ⟨fills, joined, -⟩ := accepts_iff.mp accepted
      refine accepts_iff.mpr ⟨?fills, ?joined, excepts_eq_false noneCurrent other⟩
      case fills =>
          rcases fills with holds | ⟨alternative, member, accepted⟩
          · exact Or.inl (grows.holds holds)
          · exact Or.inr ⟨alternative, member, alternative_accepts alternative member accepted⟩
      case joined =>
          intro conjunct member
          exact conjunct_accepts conjunct member (joined conjunct member)

/--
A slot without current exceptions, of its own or at any depth among its conjuncts and alternatives,
that is filled by a word is filled by each word that stands alike and has all its readings and
chunks.  So what fills it after a disambiguation filled it before.
-/
theorem accepts_with_more (unexcepted : slot.Unexcepted) :
    (∀ position other : Position, position.GrowsTo other →
      slot.accepts position = true → slot.accepts other = true) ∧
    ∀ (rules : List DisambiguationRule) (language : Language) (sentence result : Sentence),
      disambiguate rules language sentence = .ok result →
        ∀ (place : Nat) (after : Position), result.positions[place]? = some after →
          slot.accepts after = true →
            ∃ before, sentence.positions[place]? = some before ∧ slot.accepts before = true := by
  refine ⟨fun position other grows => unexcepted.accepts_of_growsTo grows, ?_⟩
  intro rules language sentence result disambiguated place after standingAfter accepted
  obtain ⟨stages, -, leads⟩ := exists_leads_of_disambiguate disambiguated
  have inRange : place < sentence.positions.length := by
    obtain ⟨less, -⟩ := List.getElem?_eq_some_iff.mp standingAfter
    have length_eq : result.positions.length = sentence.positions.length := leads.length_eq
    rwa [length_eq] at less
  have standing := List.getElem?_eq_getElem inRange
  obtain ⟨other, standingOther, narrows, -⟩ := leads.narrows standing
  obtain rfl := Option.some.inj (standingAfter.symm.trans standingOther)
  exact ⟨_, standing, unexcepted.accepts_of_growsTo narrows.growsTo accepted⟩

/-- A noun fills a slot that a verb may not fill also with the reading of a verb beside its own. -/
theorem accepts_with_more_of_noun :
    ∃ slot rule,
      ({ SlotSpec.tagged "V" with tagNegated := true }.and
        (SlotSpec.word "hogar" |>.or (.headword "casa"))).compile = .ok slot ∧
      DisambiguationRule.compile "NOUN" [.word "casas"] (.remove ⟨"V", true, true, .oneOf ["V"]⟩)
        none = .ok rule ∧
      let noun := (Position.ofWord "casas" 0).addReading (.tagged "casas" "casa" "N")
      let either := noun.addReading (.tagged "casas" "casar" "V")
      slot.Unexcepted ∧ noun.GrowsTo either ∧
        (slot.accepts noun = true ∧ slot.accepts either = true) ∧
          disambiguate [rule] (.plain "es" "Español") ⟨[.opening, either]⟩ =
            .ok ⟨[.opening, noun.note "NOUN: remove V"]⟩ ∧
            ∃ before, [Position.opening, either][1]? = some before ∧
              slot.accepts before = true := by
  refine ⟨_, _, rfl, rfl, ?_⟩
  intro noun either
  refine ⟨?unexcepted, ?grows, ⟨?accepted, (accepts_with_more ?unexcepted).1 _ _ ?grows ?accepted⟩,
    ?disambiguated, (accepts_with_more ?unexcepted).2 _ _ _ _ ?disambiguated 1 _ rfl ?noted⟩
  case unexcepted =>
      refine ⟨rfl, fun conjunct member => ?_, fun _ member => by cases member⟩
      obtain rfl := List.mem_singleton.mp member
      refine ⟨rfl, fun _ member => (by cases member), fun alternative member => ?_⟩
      obtain rfl := List.mem_singleton.mp member
      exact ⟨rfl, fun _ member => (by cases member), fun _ member => by cases member⟩
  case grows => exact ⟨rfl, rfl, rfl, rfl, List.subset_append_left _ _, List.Subset.refl _⟩
  case accepted => decide +kernel
  case noted => decide +kernel
  case disambiguated =>
      refine Outcome.bind_eq_ok_iff.mpr ⟨_, ?_, rfl⟩
      simp only [DisambiguationRule.apply, Query.occurrences, Sentence.length, List.length_cons,
        List.length_nil, Nat.zero_add, Query.scan, Query.occurrenceAt?_eq_offers]
      decide +kernel

end Slot

end PhraseRules
