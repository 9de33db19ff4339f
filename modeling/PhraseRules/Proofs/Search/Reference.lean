import PhraseRules.Proofs.Matcher.Literal
import PhraseRules.Proofs.Rendering

/-!
# References that cannot be filled

A slot that refers to another one is made ready by writing forms into its text.  There are three
ways for that to fail, which `Query.ReferenceFails` lists: the slot meant does not come earlier, the
synthesizer does not answer, or the text that comes out is no regular expression.  Of a literal text
only the last is possible, and only for its size.
-/

namespace PhraseRules

open PhraseRules.Outcome

/-- The synthesizer fails, for the reason given, to answer for some headword. -/
def ReportsFailure (synthesizer : Option Synthesizer) (failure : SynthesisError) : Prop :=
  ∃ answer headword target, synthesizer = some answer ∧ answer headword target = .error failure

/-! ## Renderings -/

namespace Rendering

/-- A rendering gives no texts only if the synthesizer does not answer. -/
theorem reportsFailure_of_texts {rendering : Rendering} {synthesizer : Option Synthesizer}
    {language : Language} {position : Position} {bound : List Reading}
    {following : List Position} {failure : SynthesisError}
    (failed : rendering.texts synthesizer language position bound following = .error failure) :
    ReportsFailure synthesizer failure := by
  obtain ⟨answer, headword, target, answered, -, failed⟩ := asksInVain_of_texts failed
  exact ⟨answer, headword, target, answered, failed⟩

end Rendering

/-! ## Slots -/

theorem Matcher.exists_of_compile_eq_error {pattern : String} {caseSensitive : Bool}
    {fault : PatternError} (failed : compile pattern true caseSensitive = .error fault) :
    ∃ cause, Regex.compile (anchored pattern caseSensitive) = .error cause ∧
      fault = .invalidRegex pattern cause := by
  rw [compile, if_pos rfl] at failed
  rcases bind_eq_error_iff.mp failed with failed | ⟨_, -, impossible⟩
  · rw [regexTest.eq_def] at failed
    split at failed
    · cases failed
    · split at failed
      · cases failed
      · split at failed
        case h_1 => cases failed
        case h_2 cause refused => exact ⟨cause, refused, (Except.error.inj failed).symm⟩
  · cases impossible

/-- The text of a slot with forms in place of its references to another one. -/
def Slot.filledText (slot : Slot) (reference : Rendering) (forms : List String) : String :=
  fillReferences slot.criterion.text reference.slot (expressionOfForms forms)

/-- The filled text of a slot is no regular expression, for the reason given. -/
def Slot.IsMalformedWith (slot : Slot) (reference : Rendering) (forms : List String)
    (cause : Regex.Fault) : Prop :=
  Regex.compile (Matcher.anchored (slot.filledText reference forms)
    slot.criterion.text.caseSensitive) = .error cause

/-- A literal text with forms in it is refused for its size or not at all. -/
theorem Slot.IsMalformedWith.eq_tooLarge {slot : Slot} {reference : Rendering}
    {forms : List String} {cause : Regex.Fault}
    (malformed : slot.IsMalformedWith reference forms cause)
    (literal : slot.criterion.text.isRegex = false) (nonempty : forms ≠ []) : cause = .tooLarge :=
  Matcher.eq_tooLarge_of_fillReferences literal nonempty malformed

namespace Query

/-- The slot meant by a reference does not come before the slot with the number. -/
def IsMisplaced (reference : Rendering) (index : Nat) : Prop :=
  reference.slot = 0 ∨ index < reference.slot
deriving Decidable

/-- Why a slot with a reference cannot be made ready. -/
inductive ReferenceFails (query : Query) (index : Nat) (slot : Slot) (reference : Rendering) :
    SearchError → Prop where
  | misplaced : IsMisplaced reference index →
      ReferenceFails query index slot reference
        (.reference index (.invalidBackReference reference.slot))
  | unanswered {failure : SynthesisError} : ReportsFailure query.synthesizer failure →
      ReferenceFails query index slot reference (.synthesis failure)
  | malformed {forms : List String} {cause : Regex.Fault} : forms ≠ [] →
      slot.IsMalformedWith reference forms cause →
        ReferenceFails query index slot reference
          (.reference index (.invalidRegex (slot.filledText reference forms) cause))

/-- Only a slot with a reference can fail to be made ready. -/
theorem exists_referenceFails_of_resolve {query : Query} {index : Nat} {slot : Slot}
    {positions : List Position} {bindings : List Binding} {fault : SearchError}
    (failed : query.resolve index slot positions bindings = .error fault) :
    ∃ reference, slot.reference = some reference ∧
      query.ReferenceFails index slot reference fault := by
  rw [resolve] at failed
  split at failed
  case h_1 => cases failed
  case h_2 reference reference_eq =>
      refine ⟨reference, reference_eq, ?_⟩
      split at failed
      case isTrue misplaced =>
          cases failed
          exact .misplaced misplaced
      case isFalse =>
          split at failed
          case h_1 => cases failed
          case h_2 binding _ =>
              rcases bind_eq_error_iff.mp failed with failed | ⟨forms, -, failed⟩
              · rw [referenceTexts] at failed
                split at failed
                case h_1 => cases failed
                case h_2 failure unanswered =>
                    cases failed
                    exact .unanswered (Rendering.reportsFailure_of_texts unanswered)
              · split at failed
                case isTrue => cases failed
                case isFalse some =>
                    dsimp only at failed
                    split at failed
                    case h_1 => cases failed
                    case h_2 cause filled =>
                        cases failed
                        rcases bind_eq_error_iff.mp filled with filled | ⟨_, -, impossible⟩
                        · rcases Matcher.exists_of_compile_eq_error filled with
                            ⟨cause, malformed, rfl⟩
                          refine ReferenceFails.malformed ?_ malformed
                          rintro rfl
                          exact some rfl
                        · cases impossible

end Query

end PhraseRules
