import PhraseRules.Proofs.Search.Answer

/-!
# The farthest occurrence

A search meets the occurrences at the ends of the ways to fill its slots.  Whatever the slots refer
to and agree in, its answer is one of them that reaches farthest, and there is none only if it meets
none.
-/

namespace PhraseRules.Query

variable {query : Query} {positions : List Position} {sentence : Sentence} {start : Nat}
  {occurrence : Occurrence} {answer : Option Occurrence}

/-- A search from the place meets the occurrence: a way to fill all slots ends there. -/
def Meets (query : Query) (positions : List Position) (start : Nat) (occurrence : Occurrence) :
    Prop :=
  query.Leads positions start (query.slotsFrom 0) 0 (nodeAt start) occurrence

theorem Meets.start_eq (meets : query.Meets positions start occurrence) :
    occurrence.start = start := by
  rcases meets with ⟨assignment, last, -, -, rfl⟩
  rfl

/-- At least one word is bound in an occurrence. -/
theorem Meets.start_lt_stop (meets : query.Meets positions start occurrence) :
    start < occurrence.stop := by
  rcases meets with ⟨assignment, last, -, less, rfl⟩
  exact less

/-- A way to fill the slots ends within the sentence if it gets anywhere. -/
theorem Fills.place_le_length {remaining : List (Slot × Option AgreementGroup)} {index : Nat}
    {node last : SearchNode} {assignment : Assignment}
    (fills : query.Fills positions remaining index node assignment last)
    (forward : node.place < last.place) : last.place ≤ positions.length := by
  induction fills with
  | done => exact absurd forward (Nat.lt_irrefl _)
  | @fill _ _ _ _ _ _ next last run _ _ resolved lands fits extended left onward induction =>
      have place_eq : next.place = run.stop :=
        (leaveSlot_keeps left).1.1.trans (Slot.stop_placementOf fits.toRepeats)
      have inside : next.place ≤ positions.length := place_eq ▸ fits.stop_le_length
      rcases Nat.eq_or_lt_of_le onward.place_le.1 with equal | less
      · exact equal ▸ inside
      · exact induction less
  | leaveOut resolved optional left onward induction =>
      rw [(leaveSlot_keeps left).1.1] at induction
      exact induction forward

theorem Meets.stop_le_length (meets : query.Meets positions start occurrence) :
    occurrence.stop ≤ positions.length := by
  rcases meets with ⟨assignment, last, fills, less, rfl⟩
  exact fills.place_le_length less

theorem Meets.slots_ne_nil (meets : query.Meets positions start occurrence) :
    query.slots ≠ [] := by
  rcases meets with ⟨assignment, last, fills, less, -⟩
  intro noSlots
  rw [slotsFrom, noSlots, List.zip_nil_left] at fills
  cases fills
  exact Nat.lt_irrefl start less

/-- The answer of a query is one of the farthest occurrences that a search meets. -/
theorem occurrenceAt?_spec (answered : query.occurrenceAt? sentence start = .ok answer) :
    (answer = none ↔ ∀ occurrence, ¬query.Meets sentence.positions start occurrence) ∧
      ∀ occurrence, answer = some occurrence →
        query.Meets sentence.positions start occurrence ∧
          ∀ other, query.Meets sentence.positions start other → other.stop ≤ occurrence.stop := by
  rw [occurrenceAt?_eq_offers] at answered
  split at answered
  case isTrue noSearch =>
      rcases Except.ok.inj answered with rfl
      refine ⟨iff_of_true rfl fun occurrence meets => ?_, fun _ absent => by cases absent⟩
      rw [Bool.or_eq_true, decide_eq_true_eq, List.isEmpty_iff] at noSearch
      rcases noSearch with noSlots | beyond
      · exact meets.slots_ne_nil noSlots
      · have forward := meets.start_lt_stop
        have inside := meets.stop_le_length
        rw [Sentence.length] at beyond
        omega
  case isFalse =>
      rcases Outcome.map_eq_ok_iff.mp answered with ⟨met, offered, rfl⟩
      have mem_iff (occurrence : Occurrence) :
          occurrence ∈ met ↔ query.Meets sentence.positions start occurrence :=
        mem_offers_iff offered
      constructor
      · rw [SearchState.foldl_keep_eq_none_iff, List.eq_nil_iff_forall_not_mem]
        simp only [mem_iff]
      · intro occurrence kept
        rcases SearchState.foldl_keep_eq_some kept with ⟨earlier, later, rfl, shorter, noLonger⟩
        refine ⟨(mem_iff occurrence).mp (List.mem_append_right _ List.mem_cons_self), ?_⟩
        intro other meets
        rcases List.mem_append.mp ((mem_iff other).mpr meets) with member | member
        · exact Nat.le_of_lt (shorter other member)
        · rcases List.mem_cons.mp member with rfl | member
          · exact Nat.le_refl _
          · exact noLonger other member

theorem meets_of_occurrenceAt?
    (found : query.occurrenceAt? sentence start = .ok (some occurrence)) :
    query.Meets sentence.positions start occurrence :=
  ((occurrenceAt?_spec found).2 occurrence rfl).1

/-! ## Places that are reached -/

/-- A search from the place meets an occurrence that ends at the other place. -/
def Reaches (query : Query) (positions : List Position) (start stop : Nat) : Prop :=
  ∃ occurrence, query.Meets positions start occurrence ∧ occurrence.stop = stop

/-- The answer is an occurrence up to the farthest of the places, or none if there are no places. -/
def IsFarthestOf (stops : Nat → Prop) : Option Occurrence → Prop
  | none => ∀ stop, ¬stops stop
  | some occurrence => stops occurrence.stop ∧ ∀ stop, stops stop → stop ≤ occurrence.stop

theorem isFarthestOf_reaches
    (answered : query.occurrenceAt? sentence start = .ok answer) :
    IsFarthestOf (query.Reaches sentence.positions start) answer := by
  obtain ⟨none_iff, some_spec⟩ := occurrenceAt?_spec answered
  cases answer with
  | none =>
      rintro stop ⟨occurrence, meets, -⟩
      exact none_iff.mp rfl occurrence meets
  | some occurrence =>
      obtain ⟨meets, farthest⟩ := some_spec occurrence rfl
      refine ⟨⟨occurrence, meets, rfl⟩, ?_⟩
      rintro stop ⟨other, otherMeets, rfl⟩
      exact farthest other otherMeets

theorem IsFarthestOf.congr {stops others : Nat → Prop} {answer : Option Occurrence}
    (farthest : IsFarthestOf stops answer) (same : ∀ stop, stops stop ↔ others stop) :
    IsFarthestOf others answer := by
  rwa [← show stops = others from funext fun stop => propext (same stop)]

theorem IsFarthestOf.map_stop_eq_max {stops others : Nat → Prop}
    {both first second : Option Occurrence}
    (bothFarthest : IsFarthestOf (fun stop => stops stop ∨ others stop) both)
    (firstFarthest : IsFarthestOf stops first) (secondFarthest : IsFarthestOf others second) :
    both.map (·.stop) = max (first.map (·.stop)) (second.map (·.stop)) := by
  cases both with
  | none =>
      cases first with
      | some found => exact absurd (Or.inl firstFarthest.1) (bothFarthest found.stop)
      | none =>
          cases second with
          | some found => exact absurd (Or.inr secondFarthest.1) (bothFarthest found.stop)
          | none => rfl
  | some farthest =>
      obtain ⟨reached, greatest⟩ := bothFarthest
      cases first with
      | none =>
          have reached := reached.resolve_left (firstFarthest _)
          cases second with
          | none => exact absurd reached (secondFarthest _)
          | some other =>
              have le := secondFarthest.2 _ reached
              have ge := greatest _ (Or.inr secondFarthest.1)
              exact congrArg some (Nat.le_antisymm le ge)
      | some found =>
          have ge := greatest _ (Or.inl firstFarthest.1)
          cases second with
          | none =>
              have le := firstFarthest.2 _ (reached.resolve_right (secondFarthest _))
              exact congrArg some (Nat.le_antisymm le ge)
          | some other =>
              have otherGe := greatest _ (Or.inr secondFarthest.1)
              have le : farthest.stop ≤ max found.stop other.stop := by
                rcases reached with reached | reached
                · exact (firstFarthest.2 _ reached).trans (Nat.le_max_left _ _)
                · exact (secondFarthest.2 _ reached).trans (Nat.le_max_right _ _)
              exact congrArg some (Nat.le_antisymm le (Nat.max_le.mpr ⟨ge, otherGe⟩))

theorem IsFarthestOf.or_of_left {stops others : Nat → Prop} {both first : Option Occurrence}
    (bothFarthest : IsFarthestOf (fun stop => stops stop ∨ others stop) both)
    (firstFarthest : IsFarthestOf stops first) :
    IsFarthestOf (fun stop => first.map (·.stop) = some stop ∨ others stop) both := by
  have of_first {stop : Nat} (ends : first.map (·.stop) = some stop) : stops stop := by
    rcases Option.map_eq_some_iff.mp ends with ⟨found, rfl, rfl⟩
    exact firstFarthest.1
  cases both with
  | none => exact fun stop ends => bothFarthest stop (ends.imp_left of_first)
  | some farthest =>
      obtain ⟨reached, greatest⟩ := bothFarthest
      refine ⟨?_, fun stop ends => greatest stop (ends.imp_left of_first)⟩
      rcases reached with reached | reached
      · cases first with
        | none => exact absurd reached (firstFarthest _)
        | some found =>
            have le := firstFarthest.2 _ reached
            have ge := greatest _ (Or.inl firstFarthest.1)
            exact Or.inl (congrArg some (Nat.le_antisymm ge le))
      · exact Or.inr reached

end PhraseRules.Query
