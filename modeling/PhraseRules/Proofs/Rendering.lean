import Mathlib.Data.List.Sort
import PhraseRules.Proofs.Distinct
import PhraseRules.Proofs.Outcome
import PhraseRules.Proofs.Regex.Replacement
import PhraseRules.Rendering

/-!
# What a rendering gives

A rendering takes a word as `Rendering.IsSurface` tells, writes it in the ways that
`Rendering.IsHead` tells, and puts behind it what `Rendering.IsTail` tells.  On the way it asks a
synthesizer for the headwords that `Rendering.Asks` tells.  Of the readings all this speaks by
membership alone.  The texts that come of it are sorted, so that they are told by their members, and
it takes just one answer that is not given to have none of them (`texts_by_set_of_readings`).
-/

namespace PhraseRules

open PhraseRules.Outcome

theorem pairwise_lt_sortDistinct (texts : List String) :
    (sortDistinct texts).Pairwise (· < ·) :=
  (pairwise_sortDistinct texts).imp compareOfLessAndEq_eq_lt.mp

/-- Wherever the one synthesizer answers, the other gives the same forms, be it in another order or
more than once. -/
def Synthesizer.SameForms (synthesizer other : Synthesizer) : Prop :=
  ∀ headword target forms, synthesizer headword target = .ok forms →
    ∃ others, other headword target = .ok others ∧ ∀ form, form ∈ others ↔ form ∈ forms

namespace Rendering

/-- The readings that a rendering goes by: those that were bound, or all if none was. -/
def readingsFor (position : Position) (bound : List Reading) : List Reading :=
  if bound.isEmpty then position.readings else bound

variable {rendering : Rendering} {synthesizer other : Option Synthesizer} {answer : Synthesizer}
  {target : Matcher} {surface : String} {readings others : List Reading}

/-! ## The word and what follows -/

/-- The word that a rendering goes by: as it stands, or with every match of an expression replaced.
-/
inductive IsSurface (rendering : Rendering) (word : String) : String → Prop where
  | unedited : rendering.substitution = none → IsSurface rendering word word
  | edited {substitution : Substitution} {surface : String} :
      rendering.substitution = some substitution →
      substitution.regex.Replaces
        (Regex.replacementParts (substitution.replacement.length + 1)
          substitution.replacement.toList)
        word.toList.toArray 0 0 none surface.toList →
      IsSurface rendering word surface

/-- What a rendering writes behind a form: nothing, or the words that follow as they stand, with a
space before those that ask for one. -/
inductive IsTail (rendering : Rendering) : List Position → String → Prop where
  | wordOnly {following : List Position} : rendering.extent = .wordOnly →
      IsTail rendering following ""
  | done : rendering.extent ≠ .wordOnly → IsTail rendering [] ""
  | spaced {position : Position} {later : List Position} {tail : String} :
      rendering.extent ≠ .wordOnly → position.spaceBefore = true → IsTail rendering later tail →
      IsTail rendering (position :: later) (" " ++ position.text ++ tail)
  | joined {position : Position} {later : List Position} {tail : String} :
      rendering.extent ≠ .wordOnly → position.spaceBefore = false → IsTail rendering later tail →
      IsTail rendering (position :: later) (position.text ++ tail)

theorem isSurface_iff {word : String} :
    rendering.IsSurface word surface ↔ surface = rendering.surface word := by
  rw [Rendering.surface.eq_def]
  split
  case h_1 substitution edits =>
      rw [eq_comm, Regex.replaceAll_eq_iff]
      constructor
      · intro isSurface
        cases isSurface with
        | unedited unedited => cases unedited.symm.trans edits
        | edited editsAlso replaces =>
            cases editsAlso.symm.trans edits
            exact replaces
      · exact .edited edits
  case h_2 unedited =>
      constructor
      · intro isSurface
        cases isSurface with
        | unedited => rfl
        | edited edits => cases unedited.symm.trans edits
      · rintro rfl
        exact .unedited unedited

/-! ## Heads and questions -/

/-- The headwords and conditions on tags that a synthesizer is asked for. -/
inductive Asks (rendering : Rendering) (readings : List Reading) : String → Matcher → Prop where
  | ofRendering {headword : String} {target : Matcher} : rendering.extent ≠ .following →
      rendering.tag = some target → rendering.headword = some headword →
      Asks rendering readings headword target
  | ofReading {headword : String} {target : Matcher} {reading : Reading} :
      rendering.extent ≠ .following → rendering.tag = some target → rendering.headword = none →
      reading ∈ readings → reading.headword = some headword →
      Asks rendering readings headword target

/-- What a rendering writes for a word, before its case changes and others follow. -/
inductive IsHead (rendering : Rendering) (synthesizer : Option Synthesizer) (surface : String)
    (readings : List Reading) : String → Prop where
  /-- The word stands as it is before those that follow. -/
  | following : rendering.extent = .following →
      IsHead rendering synthesizer surface readings surface
  /-- There is no synthesizer to ask. -/
  | unanswered {target : Matcher} : rendering.tag = some target → synthesizer = none →
      IsHead rendering synthesizer surface readings surface
  /-- No tag is asked for: the headword is written if the rendering has one. -/
  | untagged : rendering.extent ≠ .following → rendering.tag = none →
      IsHead rendering synthesizer surface readings (rendering.headword.getD surface)
  /-- A form that the synthesizer gives. -/
  | form {answer : Synthesizer} {headword : String} {target : Matcher} {forms : List String}
      {form : String} : synthesizer = some answer → rendering.Asks readings headword target →
      answer headword target = .ok forms → form ∈ forms →
      IsHead rendering synthesizer surface readings form
  /-- A reading has nothing to inflect: the word stands as it is. -/
  | bare {answer : Synthesizer} {target : Matcher} {reading : Reading} :
      rendering.extent ≠ .following → rendering.tag = some target → synthesizer = some answer →
      rendering.headword = none → reading ∈ readings → reading.headword = none →
      (∀ tag, reading.tag = some tag → tag ∈ boundaryTags) →
      IsHead rendering synthesizer surface readings surface

/-- The heads in the order in which they come. -/
def heads (rendering : Rendering) (synthesizer : Option Synthesizer) (surface : String)
    (readings : List Reading) : Except SynthesisError (List String) :=
  match rendering.extent with
  | .following => .ok [surface]
  | .wordOnly | .all => rendering.inflected synthesizer surface readings

/-- The text of the words that follow, for a rendering that takes them in. -/
def tail (rendering : Rendering) (following : List Position) : String :=
  if rendering.extent = .wordOnly then "" else textOfFollowing following

theorem isTail_iff {following : List Position} {tail : String} :
    rendering.IsTail following tail ↔ tail = rendering.tail following := by
  rw [Rendering.tail]
  split
  case isTrue wordOnly =>
      constructor
      · intro isTail
        cases isTail with
        | wordOnly => rfl
        | done goesOn => exact absurd wordOnly goesOn
        | spaced goesOn => exact absurd wordOnly goesOn
        | joined goesOn => exact absurd wordOnly goesOn
      · rintro rfl
        exact .wordOnly wordOnly
  case isFalse goesOn =>
      induction following generalizing tail with
      | nil =>
          constructor
          · intro isTail
            cases isTail with
            | wordOnly wordOnly => exact absurd wordOnly goesOn
            | done => rfl
          · rintro rfl
            exact .done goesOn
      | cons position later induction =>
          rw [textOfFollowing, List.map_cons, String.join_cons, ← textOfFollowing]
          constructor
          · intro isTail
            cases isTail with
            | wordOnly wordOnly => exact absurd wordOnly goesOn
            | spaced _ spaced isTail => rw [induction.mp isTail, if_pos spaced]
            | joined _ joined isTail => simp [induction.mp isTail, joined]
          · rintro rfl
            cases space_eq : position.spaceBefore with
            | true => exact .spaced goesOn space_eq (induction.mpr rfl)
            | false => simpa using IsTail.joined goesOn space_eq (induction.mpr rfl)

theorem texts_eq (rendering : Rendering) (synthesizer : Option Synthesizer) (language : Language)
    (position : Position) (bound : List Reading) (following : List Position) :
    rendering.texts synthesizer language position bound following =
      (rendering.heads synthesizer (rendering.surface position.text)
        (readingsFor position bound)).map fun heads => sortDistinct (heads.map fun head =>
          rendering.conversion.apply language position.text head ++ rendering.tail following) := by
  rw [texts, heads, tail, readingsFor]
  cases rendering.extent with
  | following => rfl
  | wordOnly => rfl
  | all => rfl

/-! ## Ways to find the heads -/

theorem heads_of_following (follows : rendering.extent = .following) :
    rendering.heads synthesizer surface readings = .ok [surface] := by
  rw [heads, follows]

theorem heads_eq_inflected (stands : rendering.extent ≠ .following) :
    rendering.heads synthesizer surface readings =
      rendering.inflected synthesizer surface readings := by
  rw [heads]
  cases extent_eq : rendering.extent with
  | following => exact absurd extent_eq stands
  | wordOnly => rfl
  | all => rfl

theorem heads_of_untagged (stands : rendering.extent ≠ .following)
    (untagged : rendering.tag = none) :
    rendering.heads synthesizer surface readings = .ok [rendering.headword.getD surface] := by
  rw [heads_eq_inflected stands, inflected.eq_def, untagged]

theorem heads_of_unanswered (tagged : rendering.tag = some target) :
    rendering.heads none surface readings = .ok [surface] := by
  by_cases follows : rendering.extent = .following
  · exact heads_of_following follows
  · rw [heads_eq_inflected follows, inflected.eq_def, tagged]

theorem heads_of_headword {headword : String} (stands : rendering.extent ≠ .following)
    (tagged : rendering.tag = some target) (headword_eq : rendering.headword = some headword) :
    rendering.heads (some answer) surface readings = answer headword target := by
  rw [heads_eq_inflected stands, inflected.eq_def, tagged, headword_eq]

theorem heads_of_readings (stands : rendering.extent ≠ .following)
    (tagged : rendering.tag = some target) (headword_eq : rendering.headword = none) :
    rendering.heads (some answer) surface readings =
      (readings.mapM (formsOfReading answer target surface)).map List.flatten := by
  rw [heads_eq_inflected stands, inflected.eq_def, tagged, headword_eq]
  rfl

/-- The ways a rendering can go. -/
inductive Way (rendering : Rendering) (synthesizer : Option Synthesizer) : Prop where
  | following : rendering.extent = .following → Way rendering synthesizer
  | untagged : rendering.extent ≠ .following → rendering.tag = none → Way rendering synthesizer
  | unanswered {target : Matcher} : rendering.extent ≠ .following → rendering.tag = some target →
      synthesizer = none → Way rendering synthesizer
  | headword {target : Matcher} {answer : Synthesizer} {headword : String} :
      rendering.extent ≠ .following → rendering.tag = some target → synthesizer = some answer →
      rendering.headword = some headword → Way rendering synthesizer
  | readings {target : Matcher} {answer : Synthesizer} : rendering.extent ≠ .following →
      rendering.tag = some target → synthesizer = some answer → rendering.headword = none →
      Way rendering synthesizer

theorem way (rendering : Rendering) (synthesizer : Option Synthesizer) :
    rendering.Way synthesizer := by
  by_cases follows : rendering.extent = .following
  · exact .following follows
  · cases tag_eq : rendering.tag with
    | none => exact .untagged follows tag_eq
    | some target =>
        cases synthesizer with
        | none => exact .unanswered follows tag_eq rfl
        | some answer =>
            cases headword_eq : rendering.headword with
            | none => exact .readings follows tag_eq rfl headword_eq
            | some headword => exact .headword follows tag_eq rfl headword_eq

theorem isUntaggedOrBoundary_iff {reading : Reading} :
    isUntaggedOrBoundary reading = true ↔ ∀ tag, reading.tag = some tag → tag ∈ boundaryTags := by
  rw [isUntaggedOrBoundary]
  cases reading.tag with
  | none => simp
  | some tag => simp

/-- The forms of a reading are what the synthesizer gives for its headword; without one there is the
word as it stands, or nothing. -/
theorem mem_iff_of_formsOfReading {reading : Reading} {forms : List String} {form : String}
    (given : formsOfReading answer target surface reading = .ok forms) :
    form ∈ forms ↔
      (∃ headword, reading.headword = some headword ∧
        ∃ listed, answer headword target = .ok listed ∧ form ∈ listed) ∨
      reading.headword = none ∧ (∀ tag, reading.tag = some tag → tag ∈ boundaryTags) ∧
        form = surface := by
  rw [formsOfReading] at given
  rw [← isUntaggedOrBoundary_iff]
  cases headword_eq : reading.headword with
  | some headword =>
      rw [headword_eq] at given
      simp [given]
  | none =>
      rw [headword_eq] at given
      cases given
      simp

theorem isHead_of_mem {list : List String} {head : String}
    (given : rendering.heads synthesizer surface readings = .ok list) (member : head ∈ list) :
    rendering.IsHead synthesizer surface readings head := by
  cases rendering.way synthesizer with
  | following follows =>
      rw [heads_of_following follows] at given
      cases given
      cases List.mem_singleton.mp member
      exact .following follows
  | untagged stands untagged =>
      rw [heads_of_untagged stands untagged] at given
      cases given
      cases List.mem_singleton.mp member
      exact .untagged stands untagged
  | unanswered stands tagged unanswered =>
      rw [unanswered, heads_of_unanswered tagged] at given
      cases given
      cases List.mem_singleton.mp member
      exact .unanswered tagged unanswered
  | headword stands tagged answered headword_eq =>
      rw [answered, heads_of_headword stands tagged headword_eq] at given
      exact .form answered (.ofRendering stands tagged headword_eq) given member
  | readings stands tagged answered headword_eq =>
      rw [answered, heads_of_readings stands tagged headword_eq] at given
      obtain ⟨results, passed, rfl⟩ := map_eq_ok_iff.mp given
      obtain ⟨reading, standing, gives⟩ := (mem_flatten_iff_of_mapM_eq_ok passed
        fun _ _ => mem_iff_of_formsOfReading).mp member
      obtain ⟨headword, reading_eq, forms, forms_eq, listed⟩ | ⟨reading_eq, bare, rfl⟩ := gives
      · exact .form answered (.ofReading stands tagged headword_eq standing reading_eq) forms_eq
          listed
      · exact .bare stands tagged answered headword_eq standing reading_eq bare

theorem mem_of_isHead {list : List String} {head : String}
    (given : rendering.heads synthesizer surface readings = .ok list)
    (isHead : rendering.IsHead synthesizer surface readings head) : head ∈ list := by
  cases isHead with
  | following follows =>
      rw [heads_of_following follows] at given
      cases given
      exact List.mem_singleton_self _
  | untagged stands untagged =>
      rw [heads_of_untagged stands untagged] at given
      cases given
      exact List.mem_singleton_self _
  | unanswered tagged unanswered =>
      rw [unanswered, heads_of_unanswered tagged] at given
      cases given
      exact List.mem_singleton_self _
  | form answered asks forms_eq listed =>
      cases asks with
      | ofRendering stands tagged headword_eq =>
          rw [answered, heads_of_headword stands tagged headword_eq, forms_eq] at given
          cases given
          exact listed
      | ofReading stands tagged headword_eq standing reading_eq =>
          rw [answered, heads_of_readings stands tagged headword_eq] at given
          obtain ⟨results, passed, rfl⟩ := map_eq_ok_iff.mp given
          exact (mem_flatten_iff_of_mapM_eq_ok passed fun _ _ => mem_iff_of_formsOfReading).mpr
            ⟨_, standing, Or.inl ⟨_, reading_eq, _, forms_eq, listed⟩⟩
  | bare stands tagged answered headword_eq standing reading_eq bare =>
      rw [answered, heads_of_readings stands tagged headword_eq] at given
      obtain ⟨results, passed, rfl⟩ := map_eq_ok_iff.mp given
      exact (mem_flatten_iff_of_mapM_eq_ok passed fun _ _ => mem_iff_of_formsOfReading).mpr
        ⟨_, standing, Or.inr ⟨reading_eq, bare, rfl⟩⟩

/-! ## When there are no heads -/

/-- A synthesizer was asked and did not answer, but failed. -/
def AsksInVain (rendering : Rendering) (synthesizer : Option Synthesizer) (readings : List Reading)
    (failure : SynthesisError) : Prop :=
  ∃ answer headword target, synthesizer = some answer ∧ rendering.Asks readings headword target ∧
    answer headword target = .error failure

theorem asksInVain_of_heads {failure : SynthesisError}
    (failed : rendering.heads synthesizer surface readings = .error failure) :
    rendering.AsksInVain synthesizer readings failure := by
  cases rendering.way synthesizer with
  | following follows =>
      rw [heads_of_following follows] at failed
      cases failed
  | untagged stands untagged =>
      rw [heads_of_untagged stands untagged] at failed
      cases failed
  | unanswered stands tagged unanswered =>
      rw [unanswered, heads_of_unanswered tagged] at failed
      cases failed
  | headword stands tagged answered headword_eq =>
      rw [answered, heads_of_headword stands tagged headword_eq] at failed
      exact ⟨_, _, _, answered, .ofRendering stands tagged headword_eq, failed⟩
  | readings stands tagged answered headword_eq =>
      rw [answered, heads_of_readings stands tagged headword_eq, map_eq_error_iff] at failed
      obtain ⟨reading, standing, failed⟩ := exists_of_mapM_eq_error failed
      rw [formsOfReading] at failed
      cases reading_eq : reading.headword with
      | none =>
          rw [reading_eq] at failed
          cases failed
      | some headword =>
          rw [reading_eq] at failed
          exact ⟨_, _, _, answered, .ofReading stands tagged headword_eq standing reading_eq,
            failed⟩

/-- Where there are heads, every question was answered. -/
theorem exists_answer_of_heads {list : List String} {headword : String}
    (given : rendering.heads (some answer) surface readings = .ok list)
    (asks : rendering.Asks readings headword target) :
    ∃ forms, answer headword target = .ok forms := by
  cases asks with
  | ofRendering stands tagged headword_eq =>
      rw [heads_of_headword stands tagged headword_eq] at given
      exact ⟨list, given⟩
  | ofReading stands tagged headword_eq standing reading_eq =>
      rw [heads_of_readings stands tagged headword_eq] at given
      obtain ⟨results, passed, -⟩ := map_eq_ok_iff.mp given
      obtain ⟨forms, -, forms_eq⟩ := exists_of_forall₂ (mapM_eq_ok_iff.mp passed) standing
      rw [formsOfReading, reading_eq] at forms_eq
      exact ⟨forms, forms_eq⟩

/-! ## Other readings and other synthesizers -/

theorem Asks.mono {headword : String} (subset : readings ⊆ others)
    (asks : rendering.Asks readings headword target) : rendering.Asks others headword target := by
  cases asks with
  | ofRendering stands tagged headword_eq => exact .ofRendering stands tagged headword_eq
  | ofReading stands tagged headword_eq standing reading_eq =>
      exact .ofReading stands tagged headword_eq (subset standing) reading_eq

/-- The other synthesizer gives all forms that the one does, where the rendering asks for them. -/
def GivesNoLess (rendering : Rendering) (readings : List Reading) (answer other : Synthesizer) :
    Prop :=
  ∀ headword target forms, rendering.Asks readings headword target →
    answer headword target = .ok forms →
    ∃ listed, other headword target = .ok listed ∧ forms ⊆ listed

theorem IsHead.mono {head : String} (subset : readings ⊆ others)
    (noLess : Option.Rel (rendering.GivesNoLess readings) synthesizer other)
    (isHead : rendering.IsHead synthesizer surface readings head) :
    rendering.IsHead other surface others head := by
  cases isHead with
  | following follows => exact .following follows
  | untagged stands untagged => exact .untagged stands untagged
  | unanswered tagged unanswered =>
      cases unanswered
      cases noLess
      exact .unanswered tagged rfl
  | form answered asks forms_eq listed =>
      cases answered
      cases noLess with
      | some noLess =>
          obtain ⟨more, more_eq, subsetMore⟩ := noLess _ _ _ asks forms_eq
          exact .form rfl (asks.mono subset) more_eq (subsetMore listed)
  | bare stands tagged answered headword_eq standing reading_eq bare =>
      cases answered
      cases noLess with
      | some noLess => exact .bare stands tagged rfl headword_eq (subset standing) reading_eq bare

section SameForms

variable (sameForms : Option.Rel Synthesizer.SameForms synthesizer other)
  (sameReadings : ∀ reading, reading ∈ others ↔ reading ∈ readings)
include sameForms sameReadings

/-- A synthesizer that gives the same forms gives heads for the same readings. -/
theorem exists_heads_of_sameForms {list : List String}
    (given : rendering.heads synthesizer surface readings = .ok list) :
    ∃ listOther, rendering.heads other surface others = .ok listOther := by
  refine exists_eq_ok_of_not_error fun failure failed => ?_
  obtain ⟨answerOther, headword, target, rfl, asks, failed⟩ := asksInVain_of_heads failed
  cases sameForms with
  | some same =>
      obtain ⟨forms, forms_eq⟩ :=
        exists_answer_of_heads given (asks.mono fun reading => (sameReadings reading).mp)
      obtain ⟨listed, listed_eq, -⟩ := same _ _ _ forms_eq
      cases listed_eq.symm.trans failed

theorem isHead_iff_of_sameForms {list : List String}
    (given : rendering.heads synthesizer surface readings = .ok list) (head : String) :
    rendering.IsHead other surface others head ↔
      rendering.IsHead synthesizer surface readings head := by
  constructor
  · refine IsHead.mono (fun reading => (sameReadings reading).mp) ?_
    cases sameForms with
    | none => exact .none
    | some same =>
        refine .some fun headword target forms asks forms_eq => ?_
        obtain ⟨listed, listed_eq⟩ :=
          exists_answer_of_heads given (asks.mono fun reading => (sameReadings reading).mp)
        obtain ⟨formsAgain, formsAgain_eq, members⟩ := same _ _ _ listed_eq
        cases forms_eq.symm.trans formsAgain_eq
        exact ⟨listed, listed_eq, fun form => (members form).mp⟩
  · refine IsHead.mono (fun reading => (sameReadings reading).mpr) ?_
    cases sameForms with
    | none => exact .none
    | some same =>
        refine .some fun headword target forms _ forms_eq => ?_
        obtain ⟨listed, listed_eq, members⟩ := same _ _ _ forms_eq
        exact ⟨listed, listed_eq, fun form => (members form).mpr⟩

end SameForms

/-! ## Texts -/

variable {language : Language} {position : Position} {bound : List Reading}
  {following : List Position} {texts : List String}

theorem pairwise_lt_of_texts
    (rendered : rendering.texts synthesizer language position bound following = .ok texts) :
    texts.Pairwise (· < ·) := by
  rw [texts_eq] at rendered
  obtain ⟨heads, -, rfl⟩ := map_eq_ok_iff.mp rendered
  exact pairwise_lt_sortDistinct _

theorem mem_texts_iff
    (rendered : rendering.texts synthesizer language position bound following = .ok texts)
    (text : String) :
    text ∈ texts ↔
      ∃ surface head tail, rendering.IsSurface position.text surface ∧
        rendering.IsHead synthesizer surface (readingsFor position bound) head ∧
        rendering.IsTail following tail ∧
        text = rendering.conversion.apply language position.text head ++ tail := by
  rw [texts_eq] at rendered
  obtain ⟨heads, given, rfl⟩ := map_eq_ok_iff.mp rendered
  rw [mem_sortDistinct, List.mem_map]
  constructor
  · rintro ⟨head, member, rfl⟩
    exact ⟨_, head, _, isSurface_iff.mpr rfl, isHead_of_mem given member, isTail_iff.mpr rfl, rfl⟩
  · rintro ⟨surface, head, tail, isSurface, isHead, isTail, rfl⟩
    rw [isSurface_iff.mp isSurface] at isHead
    rw [isTail_iff.mp isTail]
    exact ⟨head, mem_of_isHead given isHead, rfl⟩

theorem asksInVain_of_texts {failure : SynthesisError}
    (failed : rendering.texts synthesizer language position bound following = .error failure) :
    rendering.AsksInVain synthesizer (readingsFor position bound) failure := by
  rw [texts_eq, map_eq_error_iff] at failed
  exact asksInVain_of_heads failed

end Rendering

end PhraseRules
