import Mathlib.Data.List.Forall2

/-!
# Results of steps that can fail

Searches and compilations stop at the first fault.  The lemmas of this module take a successful run
apart into its steps, and find the step at which another one failed.
-/

namespace PhraseRules.Outcome

variable {ε α β : Type}

@[simp]
theorem ok_bind (value : α) (next : α → Except ε β) :
    (Except.ok value >>= next) = next value :=
  rfl

@[simp]
theorem error_bind (fault : ε) (next : α → Except ε β) :
    (Except.error fault >>= next) = .error fault :=
  rfl

@[simp]
theorem map_ok (change : α → β) (value : α) :
    (Except.ok value : Except ε α).map change = .ok (change value) :=
  rfl

@[simp]
theorem map_error (change : α → β) (fault : ε) :
    (Except.error fault : Except ε α).map change = .error fault :=
  rfl

theorem map_bind {γ : Type} (outcome : Except ε α) (next : α → Except ε β) (change : β → γ) :
    (outcome >>= next).map change = outcome >>= fun value => (next value).map change := by
  cases outcome with
  | error fault => rfl
  | ok value => rfl

theorem bind_eq_ok_iff {outcome : Except ε α} {next : α → Except ε β} {result : β} :
    (outcome >>= next) = .ok result ↔
      ∃ value, outcome = .ok value ∧ next value = .ok result := by
  cases outcome with
  | error fault => simp
  | ok value => simp

/-- What follows a step without a chance to fail has a result if the step has. -/
theorem exists_bind_eq_ok_iff {outcome : Except ε α} {change : α → β} :
    (∃ result, (outcome >>= fun value => Except.ok (change value)) = .ok result) ↔
      ∃ value, outcome = .ok value := by
  cases outcome with
  | error fault => simp
  | ok value => simp

theorem bind_eq_error_iff {outcome : Except ε α} {next : α → Except ε β} {fault : ε} :
    (outcome >>= next) = .error fault ↔
      outcome = .error fault ∨ ∃ value, outcome = .ok value ∧ next value = .error fault := by
  cases outcome with
  | error cause => simp
  | ok value => simp

theorem map_eq_error_iff {outcome : Except ε α} {change : α → β} {fault : ε} :
    outcome.map change = .error fault ↔ outcome = .error fault := by
  cases outcome with
  | error cause => simp
  | ok value => simp

theorem map_eq_ok_iff {outcome : Except ε α} {change : α → β} {result : β} :
    outcome.map change = .ok result ↔ ∃ value, outcome = .ok value ∧ change value = result := by
  cases outcome with
  | error fault => simp
  | ok value => simp

theorem mapError_eq_ok_iff {δ : Type} {outcome : Except ε α} {change : ε → δ} {value : α} :
    outcome.mapError change = .ok value ↔ outcome = .ok value := by
  cases outcome with
  | error cause => simp [Except.mapError]
  | ok other => simp [Except.mapError]

theorem mapError_eq_error_iff {δ : Type} {outcome : Except ε α} {change : ε → δ} {fault : δ} :
    outcome.mapError change = .error fault ↔
      ∃ cause, outcome = .error cause ∧ change cause = fault := by
  cases outcome with
  | error cause => simp [Except.mapError]
  | ok other => simp [Except.mapError]

theorem exists_eq_ok_of_not_error {outcome : Except ε α}
    (succeeds : ∀ fault, outcome ≠ .error fault) : ∃ value, outcome = .ok value := by
  cases outcome with
  | error fault => exact absurd rfl (succeeds fault)
  | ok value => exact ⟨value, rfl⟩

theorem exists_eq_ok_some_of_isSome {outcome : Except ε (Option α)}
    (found : outcome.toOption.join.isSome = true) : ∃ value, outcome = .ok (some value) := by
  cases outcome with
  | error fault => cases found
  | ok result =>
      rcases Option.isSome_iff_exists.mp found with ⟨value, value_eq⟩
      exact ⟨value, congrArg Except.ok value_eq⟩

/-- A pass over a list succeeds exactly if it does so at every element. -/
theorem mapM_eq_ok_iff {step : α → Except ε β} {elements : List α} {results : List β} :
    elements.mapM step = .ok results ↔
      List.Forall₂ (fun element result => step element = .ok result) elements results := by
  induction elements generalizing results with
  | nil =>
      rw [List.mapM_nil, List.forall₂_nil_left_iff]
      exact ⟨fun equal => (Except.ok.inj equal).symm, fun equal => equal ▸ rfl⟩
  | cons element later induction =>
      rw [List.mapM_cons, bind_eq_ok_iff, List.forall₂_cons_left_iff]
      constructor
      · rintro ⟨first, stepped, passed⟩
        rcases bind_eq_ok_iff.mp passed with ⟨others, passed, equal⟩
        exact ⟨first, others, stepped, induction.mp passed, (Except.ok.inj equal).symm⟩
      · rintro ⟨first, others, stepped, passed, rfl⟩
        exact ⟨first, stepped, bind_eq_ok_iff.mpr ⟨others, induction.mpr passed, rfl⟩⟩

theorem mapM_concat_eq_ok_iff {step : α → Except ε β} {elements : List α} {last : α}
    {results : List β} :
    (elements ++ [last]).mapM step = .ok results ↔
      ∃ earlier result, elements.mapM step = .ok earlier ∧ step last = .ok result ∧
        results = earlier ++ [result] := by
  rw [List.mapM_append, List.mapM_cons, List.mapM_nil, bind_eq_ok_iff]
  constructor
  · rintro ⟨earlier, passed, ended⟩
    obtain ⟨_, stepped, results_eq⟩ := bind_eq_ok_iff.mp ended
    obtain ⟨result, last_eq, single_eq⟩ := bind_eq_ok_iff.mp stepped
    cases single_eq
    cases results_eq
    exact ⟨earlier, result, passed, last_eq, rfl⟩
  · rintro ⟨earlier, result, passed, last_eq, rfl⟩
    refine ⟨earlier, passed, ?_⟩
    rw [last_eq]
    rfl

/-- A pass over a list fails only where its step does. -/
theorem exists_of_mapM_eq_error {step : α → Except ε β} {elements : List α} {fault : ε}
    (failed : elements.mapM step = .error fault) :
    ∃ element ∈ elements, step element = .error fault := by
  induction elements with
  | nil => cases failed
  | cons element later induction =>
      rw [List.mapM_cons] at failed
      rcases bind_eq_error_iff.mp failed with failed | ⟨first, -, failed⟩
      · exact ⟨element, List.mem_cons_self, failed⟩
      · rcases bind_eq_error_iff.mp failed with failed | ⟨others, -, impossible⟩
        · rcases induction failed with ⟨other, member, failed⟩
          exact ⟨other, List.mem_cons_of_mem _ member, failed⟩
        · cases impossible

/-- Steps in a row fail only where one of them does. -/
theorem exists_of_foldlM_eq_error {step : β → α → Except ε β} {elements : List α} {start : β}
    {fault : ε} (failed : elements.foldlM step start = .error fault) :
    ∃ state, ∃ element ∈ elements, step state element = .error fault := by
  induction elements generalizing start with
  | nil => cases failed
  | cons element later induction =>
      rw [List.foldlM_cons] at failed
      rcases bind_eq_error_iff.mp failed with failed | ⟨next, -, failed⟩
      · exact ⟨start, element, List.mem_cons_self, failed⟩
      · rcases induction failed with ⟨state, other, member, failed⟩
        exact ⟨state, other, List.mem_cons_of_mem _ member, failed⟩

/-- Every element of the first of two related lists is related to one of the second. -/
theorem exists_of_forall₂ {relates : α → β → Prop} {elements : List α} {results : List β}
    (related : List.Forall₂ relates elements results) {element : α} (member : element ∈ elements) :
    ∃ result ∈ results, relates element result := by
  induction related with
  | nil => cases member
  | cons first later induction =>
      rcases List.mem_cons.mp member with rfl | member
      · exact ⟨_, List.mem_cons_self, first⟩
      · rcases induction member with ⟨result, resultMember, relates⟩
        exact ⟨result, List.mem_cons_of_mem _ resultMember, relates⟩

/-- What holds between elements holds between those related to them. -/
theorem pairwise_of_forall₂ {relation : α → β → Prop} {before : α → α → Prop}
    {after : β → β → Prop}
    (carries : ∀ first second image secondImage, relation first image →
      relation second secondImage → before first second → after image secondImage)
    {elements : List α} {images : List β} (related : List.Forall₂ relation elements images)
    (ordered : elements.Pairwise before) : images.Pairwise after := by
  induction related with
  | nil => exact .nil
  | cons isImage later induction =>
      rcases List.pairwise_cons.mp ordered with ⟨first, others⟩
      refine .cons (fun image member => ?_) (induction others)
      rcases exists_of_forall₂ later.flip member with ⟨element, listed, isImageLater⟩
      exact carries _ _ _ _ isImage isImageLater (first element listed)

/-- What a pass collects is what its step gives at the elements. -/
theorem mem_flatten_iff_of_mapM_eq_ok {step : α → Except ε (List β)} {elements : List α}
    {results : List (List β)} {found : β} {gives : α → Prop}
    (passed : elements.mapM step = .ok results)
    (each : ∀ element result, step element = .ok result → (found ∈ result ↔ gives element)) :
    found ∈ results.flatten ↔ ∃ element ∈ elements, gives element := by
  induction mapM_eq_ok_iff.mp passed with
  | nil => simp
  | cons stepped later induction =>
      rw [List.flatten_cons, List.mem_append, induction (mapM_eq_ok_iff.mpr later),
        each _ _ stepped]
      simp

/-- The results of a pass, changed one by one, are those of the changed step. -/
theorem map_mapM {γ : Type} (step : α → Except ε β) (change : β → γ) (elements : List α) :
    (elements.mapM step).map (·.map change) =
      elements.mapM fun element => (step element).map change := by
  induction elements with
  | nil => rfl
  | cons element later induction =>
      rw [List.mapM_cons, List.mapM_cons, ← induction]
      cases step element with
      | error fault => rfl
      | ok first =>
          cases later.mapM step with
          | error fault => rfl
          | ok others => rfl

/-- A pass with a step that never fails gives a result. -/
theorem exists_mapM_eq_ok {step : α → Except ε β} {elements : List α}
    (succeeds : ∀ element ∈ elements, ∃ result, step element = .ok result) :
    ∃ results, elements.mapM step = .ok results := by
  induction elements with
  | nil => exact ⟨[], rfl⟩
  | cons element later induction =>
      rcases succeeds element List.mem_cons_self with ⟨first, stepped⟩
      rcases induction fun other member => succeeds other (List.mem_cons_of_mem _ member) with
        ⟨others, passed⟩
      exact ⟨first :: others, by rw [List.mapM_cons, stepped, passed]; rfl⟩

end PhraseRules.Outcome
