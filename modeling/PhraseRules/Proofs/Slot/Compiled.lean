import PhraseRules.Proofs.Outcome
import PhraseRules.Slot.Spec

/-!
# How slots come from descriptions

A description is compiled part by part, and everything else of the slot is taken over from it:
`SlotSpec.compile_eq_ok_iff` says so once.  Exceptions and conjuncts that are added to a description
are therefore added to its slot.
-/

namespace PhraseRules

/-! ## One more exception or conjunct -/

namespace Slot

/-- The slot with one more exception. -/
def excepting (slot : Slot) (scope : ExceptionScope) (exception : Slot) : Slot :=
  { slot with exceptions := slot.exceptions ++ [(scope, exception)] }

/-- The slot with one more conjunct. -/
def joining (slot conjunct : Slot) : Slot :=
  { slot with conjuncts := slot.conjuncts ++ [conjunct] }

end Slot

namespace SlotSpec

open Outcome

variable {spec exception conjunct : SlotSpec} {slot joined : Slot} {scope : ExceptionScope}

/-- How the parts of a slot come from its description. -/
structure Compiles (spec : SlotSpec) (slot : Slot) : Prop where
  text_eq : Matcher.compile (Text.trim spec.text) spec.isRegex spec.caseSensitive =
    .ok slot.criterion.text
  tag_eq : compileTag spec.tagIsRegex spec.tagNegated spec.tag = .ok slot.criterion.tag
  chunk_eq : compileChunk spec.chunkIsRegex spec.chunk = .ok slot.criterion.chunk
  most_eq : compileMost spec.least spec.most = .ok slot.most
  skip_eq : limitOf .skip spec.skip = .ok slot.skip
  exceptions_eq : compileExceptions spec.exceptions = .ok slot.exceptions
  conjuncts_eq : compileAll spec.conjuncts = .ok slot.conjuncts
  alternatives_eq : compileAll spec.alternatives = .ok slot.alternatives
  inflected_eq : slot.criterion.inflected = spec.inflected
  negated_eq : slot.criterion.negated = spec.negated
  spaceBefore_eq : slot.criterion.spaceBefore = spec.spaceBefore
  least_eq : slot.least = spec.least
  marked_eq : slot.marked = spec.marked
  agreement_eq : slot.agreement = spec.agreement
  neutral_eq : slot.neutral = spec.neutral
  reference_eq : slot.reference = spec.reference

theorem compile_eq_ok_iff : spec.compile = .ok slot ↔ spec.Compiles slot := by
  constructor
  · intro compiled
    cases spec
    rw [compile] at compiled
    rcases bind_eq_ok_iff.mp compiled with ⟨text, text_eq, compiled⟩
    rcases bind_eq_ok_iff.mp compiled with ⟨tag, tag_eq, compiled⟩
    rcases bind_eq_ok_iff.mp compiled with ⟨chunk, chunk_eq, compiled⟩
    rcases bind_eq_ok_iff.mp compiled with ⟨most, most_eq, compiled⟩
    rcases bind_eq_ok_iff.mp compiled with ⟨skip, skip_eq, compiled⟩
    rcases bind_eq_ok_iff.mp compiled with ⟨exceptions, exceptions_eq, compiled⟩
    rcases bind_eq_ok_iff.mp compiled with ⟨conjuncts, conjuncts_eq, compiled⟩
    rcases bind_eq_ok_iff.mp compiled with ⟨alternatives, alternatives_eq, equal⟩
    cases equal
    exact ⟨text_eq, tag_eq, chunk_eq, most_eq, skip_eq, exceptions_eq, conjuncts_eq,
      alternatives_eq, rfl, rfl, rfl, rfl, rfl, rfl, rfl, rfl⟩
  · intro compiles
    cases spec
    cases slot
    rcases compiles with ⟨text_eq, tag_eq, chunk_eq, most_eq, skip_eq, exceptions_eq, conjuncts_eq,
      alternatives_eq, rfl, rfl, rfl, rfl, rfl, rfl, rfl, rfl⟩
    dsimp only at text_eq tag_eq chunk_eq most_eq skip_eq exceptions_eq conjuncts_eq alternatives_eq
    rw [compile, text_eq, tag_eq, chunk_eq, most_eq, skip_eq, exceptions_eq, conjuncts_eq,
      alternatives_eq]
    rfl

theorem compileAll_eq_mapM (specs : List SlotSpec) : compileAll specs = specs.mapM compile := by
  induction specs with
  | nil => rfl
  | cons spec later induction =>
      rw [compileAll, List.mapM_cons, induction]
      rfl

theorem compileExceptions_eq_mapM (exceptions : List (ExceptionScope × SlotSpec)) :
    compileExceptions exceptions =
      exceptions.mapM fun exception => exception.2.compile.map (exception.1, ·) := by
  induction exceptions with
  | nil => rfl
  | cons exception later induction =>
      rw [compileExceptions, List.mapM_cons, induction]
      cases exception.2.compile <;> rfl

/-- A slot with one more exception is compiled from the slot and the exception. -/
theorem compile_except_eq_ok_iff :
    (spec.except scope exception).compile = .ok slot ↔
      ∃ plain excepted, spec.compile = .ok plain ∧ exception.compile = .ok excepted ∧
        slot = plain.excepting scope excepted := by
  constructor
  · intro compiled
    have compiles := compile_eq_ok_iff.mp compiled
    have exceptions_eq := compiles.exceptions_eq
    rw [except, compileExceptions_eq_mapM, mapM_concat_eq_ok_iff] at exceptions_eq
    obtain ⟨earlier, last, earlier_eq, last_eq, all_eq⟩ := exceptions_eq
    obtain ⟨excepted, exceptionCompiled, rfl⟩ := map_eq_ok_iff.mp last_eq
    rw [← compileExceptions_eq_mapM] at earlier_eq
    have plainCompiles : spec.Compiles { slot with exceptions := earlier } :=
      { compiles with exceptions_eq := earlier_eq }
    refine ⟨_, excepted, compile_eq_ok_iff.mpr plainCompiles, exceptionCompiled, ?_⟩
    cases slot
    cases all_eq
    rfl
  · rintro ⟨plain, excepted, plainCompiled, exceptionCompiled, rfl⟩
    have compiles := compile_eq_ok_iff.mp plainCompiled
    have exceptions_eq : compileExceptions (spec.except scope exception).exceptions =
        .ok (plain.excepting scope excepted).exceptions := by
      have earlier_eq := compiles.exceptions_eq
      rw [compileExceptions_eq_mapM] at earlier_eq ⊢
      exact mapM_concat_eq_ok_iff.mpr
        ⟨_, _, earlier_eq, map_eq_ok_iff.mpr ⟨excepted, exceptionCompiled, rfl⟩, rfl⟩
    exact compile_eq_ok_iff.mpr { compiles with exceptions_eq := exceptions_eq }

/-- A slot with one more conjunct is compiled from the slot and the conjunct. -/
theorem compile_and (plainCompiled : spec.compile = .ok slot)
    (conjunctCompiled : conjunct.compile = .ok joined) :
    (spec.and conjunct).compile = .ok (slot.joining joined) := by
  have compiles := compile_eq_ok_iff.mp plainCompiled
  have conjuncts_eq : compileAll (spec.and conjunct).conjuncts =
      .ok (slot.joining joined).conjuncts := by
    have earlier_eq := compiles.conjuncts_eq
    rw [compileAll_eq_mapM] at earlier_eq ⊢
    exact mapM_concat_eq_ok_iff.mpr ⟨_, _, earlier_eq, conjunctCompiled, rfl⟩
  exact compile_eq_ok_iff.mpr { compiles with conjuncts_eq := conjuncts_eq }

end SlotSpec

end PhraseRules
