import PhraseRules.Proofs.Search.Memory
import PhraseRules.Proofs.Search.Replacement
import PhraseRules.Proofs.Slot.Compiled

/-!
# Exceptions of conjuncts

An exception can be declared on a slot, or on a conjunct of the slot that any word fills.  For a
current exception this is the same.  For an exception to the words before or behind it is not: a
search asks for those of the slot itself and of no other, so the exception of the conjunct is never
heard, and the slot acts as it would without it: `Query.occurrenceAt?_of_conjunct_exception`.
-/

namespace PhraseRules

/-! ## One more guard -/

namespace Slot

variable {slot exception conjunct : Slot} {scope : ExceptionScope} {position : Position}

theorem excepts_excepting (other : ExceptionScope) :
    (slot.excepting scope exception).excepts other position =
      (slot.excepts other position || scope == other && exception.accepts position) := by
  simp [excepts, exceptionAccepts_eq_any, excepting]

theorem admits_excepting :
    (slot.excepting scope exception).admits position =
      (slot.admits position && !(scope == .current && exception.accepts position)) := by
  rw [admits, excepts_excepting, Bool.not_or, ← Bool.and_assoc]
  rfl

theorem admits_joining :
    (slot.joining conjunct).admits position =
      (slot.admits position && conjunct.accepts position) := by
  have excepts_eq : (slot.joining conjunct).excepts .current position =
      slot.excepts .current position := rfl
  rw [admits, excepts_eq, admits, Bool.and_right_comm]
  simp [joining]

/-- The slot that any one word fills. -/
def anyWord : Slot where
  criterion := ⟨.literal "" false, false, false, none, none, none⟩
  least := 1
  most := some 1
  skip := some 0
  marked := none
  exceptions := []
  conjuncts := []
  alternatives := []
  agreement := none
  neutral := false
  reference := none

theorem compile_anyWord : SlotSpec.anyWord.compile = .ok anyWord :=
  rfl

/-- Any word fills the slot unless it is a current exception. -/
theorem accepts_anyWord_excepting (analysed : position.readings ≠ []) :
    (anyWord.excepting scope exception).accepts position =
      !(scope == .current && exception.accepts position) := by
  have holds : anyWord.criterion.holds position = true := by
    obtain ⟨reading, member⟩ := List.exists_mem_of_ne_nil position.readings analysed
    exact List.any_eq_true.mpr ⟨reading, member, rfl⟩
  have criterion_eq : (anyWord.excepting scope exception).criterion = anyWord.criterion := rfl
  rw [accepts_eq, admits_excepting, criterion_eq, holds, Bool.true_or, Bool.true_and]
  rfl

variable {positions : List Position}

/-- A current exception can be moved to a conjunct, and so can one that no word is. -/
theorem excepting_actsLike (analysed : ∀ position ∈ positions, position.readings ≠ [])
    (movable : scope = .current ∨ ∀ position ∈ positions, exception.accepts position = false) :
    ActsLike positions (slot.excepting scope exception)
      (slot.joining (anyWord.excepting scope exception)) := by
  refine ⟨rfl, fun position member => ?admits, fun other elsewhere position member => ?excepts⟩
  case admits =>
      rw [admits_joining, admits_excepting, accepts_anyWord_excepting (analysed position member)]
  case excepts =>
      have unheard : (scope == other && exception.accepts position) = false := by
        rcases movable with rfl | none
        · rw [beq_false_of_ne elsewhere.symm, Bool.false_and]
        · rw [none position member, Bool.and_false]
      rw [excepts_excepting, unheard, Bool.or_false]
      rfl

/-- An exception to the words before or behind is not heard on a conjunct. -/
theorem actsLike_joining (analysed : ∀ position ∈ positions, position.readings ≠ [])
    (elsewhere : scope ≠ .current) :
    ActsLike positions slot (slot.joining (anyWord.excepting scope exception)) := by
  refine ⟨rfl, fun position member => ?_, fun _ _ _ _ => rfl⟩
  rw [admits_joining, accepts_anyWord_excepting (analysed position member),
    beq_false_of_ne elsewhere, Bool.false_and, Bool.not_false, Bool.and_true]

end Slot

/-! ## Moving an exception -/

namespace Query

/--
An exception that is declared on a slot, compared with the same exception on a conjunct that any
word fills.  A current exception has the same effect there, and so has one that no word of the
sentence is.  An exception to the words before or behind has no effect there: the answers are those
for the slot without it.
-/
theorem occurrenceAt?_of_conjunct_exception {spec exception : SlotSpec} {scope : ExceptionScope}
    {declared : Slot} (compiled : (spec.except scope exception).compile = .ok declared) :
    ∃ plain excepted moved : Slot, spec.compile = .ok plain ∧ exception.compile = .ok excepted ∧
      (spec.and (SlotSpec.anyWord.except scope exception)).compile = .ok moved ∧
        ∀ (query : Query) (before behind : List Slot) (sentence : Sentence) (start : Nat),
          (∀ position ∈ sentence.positions, position.readings ≠ []) →
            let answer (slot : Slot) :=
              (query.withSlots (before ++ slot :: behind)).occurrenceAt? sentence start
            (scope = .current ∨
                (∀ position ∈ sentence.positions, excepted.accepts position = false) →
              answer moved = answer declared) ∧
            (scope ≠ .current → answer moved = answer plain) := by
  obtain ⟨plain, excepted, plainCompiled, exceptionCompiled, rfl⟩ :=
    SlotSpec.compile_except_eq_ok_iff.mp compiled
  have conjunctCompiled : (SlotSpec.anyWord.except scope exception).compile =
      .ok (Slot.anyWord.excepting scope excepted) :=
    SlotSpec.compile_except_eq_ok_iff.mpr
      ⟨_, _, Slot.compile_anyWord, exceptionCompiled, rfl⟩
  refine ⟨plain, excepted, plain.joining (Slot.anyWord.excepting scope excepted), plainCompiled,
    exceptionCompiled, SlotSpec.compile_and plainCompiled conjunctCompiled, ?_⟩
  intro query before behind sentence start analysed answer
  constructor
  · intro movable
    exact occurrenceAt?_replace (Slot.excepting_actsLike analysed movable) start
  · intro elsewhere
    exact occurrenceAt?_replace (Slot.actsLike_joining analysed elsewhere) start

/-- Of two forms the plural is excepted, by the slot itself or by a conjunct. -/
theorem occurrenceAt?_of_conjunct_exception_of_plural :
    let either := (SlotSpec.word "casa").or (.word "casas")
    ∃ declared plain excepted moved : Slot,
      (either.except .current (.word "casas")).compile = .ok declared ∧
        either.compile = .ok plain ∧ (SlotSpec.word "casas").compile = .ok excepted ∧
          (either.and (SlotSpec.anyWord.except .current (.word "casas"))).compile = .ok moved ∧
            let query : Query := ⟨[], none, none, .plain "es" "Español", .respected⟩
            let answer (slot : Slot) :=
              (query.withSlots ([] ++ slot :: [])).occurrenceAt? (.ofWords ["casas"]) 1
            answer moved = answer declared ∧ answer declared = .ok none ∧
              answer plain = .ok (some ⟨1, 2, [⟨0, 1, [0]⟩]⟩) := by
  intro either
  have compiled : (either.except .current (.word "casas")).compile = .ok _ := rfl
  obtain ⟨plain, excepted, moved, plainCompiled, exceptionCompiled, movedCompiled, answers⟩ :=
    occurrenceAt?_of_conjunct_exception compiled
  refine ⟨_, plain, excepted, moved, compiled, plainCompiled, exceptionCompiled, movedCompiled, ?_⟩
  intro query answer
  refine ⟨(answers query [] [] _ 1 ?analysed).1 (Or.inl rfl), ?declared, ?plain⟩
  case analysed => decide
  case declared =>
      simp only [answer, occurrenceAt?_eq_offers]
      decide +kernel
  case plain =>
      cases plainCompiled
      simp only [answer, occurrenceAt?_eq_offers]
      decide +kernel

/-- Exceptions to the words before and behind keep words out, but not on a conjunct. -/
theorem conjunct_exception_unheard :
    let query : Query := ⟨[], none, none, .plain "es" "Español", .respected⟩
    (∃ declared moved last : Slot,
      let first : SlotSpec := { SlotSpec.word "a" with skip := -1 }
      (first.except .next (.word "x")).compile = .ok declared ∧
        (first.and (SlotSpec.anyWord.except .next (.word "x"))).compile = .ok moved ∧
          (SlotSpec.word "b").compile = .ok last ∧
            (query.withSlots [declared, last]).occurrenceAt? (.ofWords ["a", "x", "b"]) 1 =
                .ok none ∧
              (query.withSlots [moved, last]).occurrenceAt? (.ofWords ["a", "x", "b"]) 1 =
                .ok (some ⟨1, 4, [⟨0, 1, [0]⟩, ⟨1, 3, [0]⟩]⟩)) ∧
    ∃ declared moved : Slot,
      ((SlotSpec.word "b").except .previous (.word "a")).compile = .ok declared ∧
        ((SlotSpec.word "b").and (SlotSpec.anyWord.except .previous (.word "a"))).compile =
            .ok moved ∧
          (query.withSlots [declared]).occurrenceAt? (.ofWords ["a", "b"]) 2 = .ok none ∧
            (query.withSlots [moved]).occurrenceAt? (.ofWords ["a", "b"]) 2 =
              .ok (some ⟨2, 3, [⟨0, 2, [0]⟩]⟩) := by
  intro query
  refine ⟨⟨_, _, _, rfl, rfl, rfl, ?_, ?_⟩, _, _, rfl, rfl, ?_, ?_⟩
  all_goals
    rw [occurrenceAt?_eq_offers]
    decide +kernel

end Query

end PhraseRules
