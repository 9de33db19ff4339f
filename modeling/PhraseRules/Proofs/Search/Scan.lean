import PhraseRules.Proofs.Search.Farthest
import PhraseRules.Search.Scan

/-!
# Scans

A scan takes the occurrences that lie farthest to the left, one behind the other, among those that
it may take.  `Query.IsLeftmost` says which these are without referring to a scan; there is only one
such choice, and `Query.scan_eq_mapM` says that a scan whose searches do not fail makes it.
-/

namespace PhraseRules

/-- The place lies within the occurrence. -/
def Occurrence.Covers (occurrence : Occurrence) (place : Nat) : Prop :=
  occurrence.start ≤ place ∧ place < occurrence.stop

namespace Query

/--
The chosen occurrences are taken from a place on, farthest to the left and one behind the other,
among those that are free.  At every place that they leave out the query finds nothing, or something
that is not free.
-/
structure IsLeftmost (query : Query) (sentence : Sentence) (free : Occurrence → Bool) (place : Nat)
    (chosen : List Occurrence) : Prop where
  found : ∀ occurrence ∈ chosen,
    query.occurrenceAt? sentence occurrence.start = .ok (some occurrence)
  allFree : ∀ occurrence ∈ chosen, free occurrence = true
  nonempty : ∀ occurrence ∈ chosen, occurrence.start < occurrence.stop
  behind : ∀ occurrence ∈ chosen, place ≤ occurrence.start
  ordered : chosen.Pairwise fun former latter => former.stop ≤ latter.start
  complete : ∀ start, place ≤ start → start < sentence.length →
    (∀ occurrence ∈ chosen, ¬occurrence.Covers start) →
      query.occurrenceAt? sentence start = .ok none ∨
        ∃ occurrence, query.occurrenceAt? sentence start = .ok (some occurrence) ∧
          free occurrence = false

variable {query : Query} {sentence : Sentence} {free : Occurrence → Bool} {place : Nat}
  {occurrence : Occurrence} {chosen later : List Occurrence}

namespace IsLeftmost

/-! ## How the choice is made -/

theorem nil (beyond : sentence.length ≤ place) :
    query.IsLeftmost sentence free place [] where
  found := fun _ member => by cases member
  allFree := fun _ member => by cases member
  nonempty := fun _ member => by cases member
  behind := fun _ member => by cases member
  ordered := .nil
  complete := fun start behind inside _ => by omega

/-- An occurrence that is found at the place and is free is taken. -/
theorem take (found : query.occurrenceAt? sentence place = .ok (some occurrence))
    (isFree : free occurrence = true)
    (leftmost : query.IsLeftmost sentence free occurrence.stop later) :
    query.IsLeftmost sentence free place (occurrence :: later) := by
  have start_eq : occurrence.start = place := (meets_of_occurrenceAt? found).start_eq
  have forward : place < occurrence.stop := (meets_of_occurrenceAt? found).start_lt_stop
  refine ⟨?_, ?_, ?_, ?_, List.pairwise_cons.mpr ⟨leftmost.behind, leftmost.ordered⟩, ?_⟩
  · exact List.forall_mem_cons.mpr ⟨start_eq.symm ▸ found, leftmost.found⟩
  · exact List.forall_mem_cons.mpr ⟨isFree, leftmost.allFree⟩
  · exact List.forall_mem_cons.mpr ⟨start_eq.symm ▸ forward, leftmost.nonempty⟩
  · refine List.forall_mem_cons.mpr ⟨Nat.le_of_eq start_eq.symm, fun other member => ?_⟩
    exact Nat.le_trans (Nat.le_of_lt forward) (leftmost.behind other member)
  · intro start behind inside uncovered
    have outside : ¬occurrence.Covers start := uncovered occurrence List.mem_cons_self
    rw [Occurrence.Covers, start_eq] at outside
    exact leftmost.complete start (by omega) inside
      fun other member => uncovered other (List.mem_cons_of_mem _ member)

/-- A place at which nothing free is found is passed over. -/
theorem pass
    (nothing : query.occurrenceAt? sentence place = .ok none ∨
      ∃ occurrence, query.occurrenceAt? sentence place = .ok (some occurrence) ∧
        free occurrence = false)
    (leftmost : query.IsLeftmost sentence free (place + 1) chosen) :
    query.IsLeftmost sentence free place chosen where
  found := leftmost.found
  allFree := leftmost.allFree
  nonempty := leftmost.nonempty
  behind := fun occurrence member => Nat.le_of_succ_le (leftmost.behind occurrence member)
  ordered := leftmost.ordered
  complete := by
    intro start behind inside uncovered
    rcases Nat.eq_or_lt_of_le behind with rfl | less
    · exact nothing
    · exact leftmost.complete start less inside uncovered

/-! ## There is only one choice -/

theorem tail (leftmost : query.IsLeftmost sentence free place (occurrence :: later)) :
    query.IsLeftmost sentence free occurrence.stop later where
  found := fun other member => leftmost.found other (List.mem_cons_of_mem _ member)
  allFree := fun other member => leftmost.allFree other (List.mem_cons_of_mem _ member)
  nonempty := fun other member => leftmost.nonempty other (List.mem_cons_of_mem _ member)
  behind := (List.pairwise_cons.mp leftmost.ordered).1
  ordered := (List.pairwise_cons.mp leftmost.ordered).2
  complete := by
    intro start behind inside uncovered
    have place_le : place ≤ occurrence.start := leftmost.behind occurrence List.mem_cons_self
    have forward : occurrence.start < occurrence.stop :=
      leftmost.nonempty occurrence List.mem_cons_self
    refine leftmost.complete start (by omega) inside (List.forall_mem_cons.mpr ⟨?_, uncovered⟩)
    rintro ⟨-, before⟩
    exact absurd before (Nat.not_lt_of_le behind)

/-- A free occurrence begins within a chosen one. -/
theorem exists_covers (leftmost : query.IsLeftmost sentence free place chosen) {start : Nat}
    (found : query.occurrenceAt? sentence start = .ok (some occurrence))
    (isFree : free occurrence = true) (behind : place ≤ start) :
    ∃ covering ∈ chosen, covering.Covers start := by
  have meets := meets_of_occurrenceAt? found
  have forward := meets.start_lt_stop
  have inside : start < sentence.length := Nat.lt_of_lt_of_le forward meets.stop_le_length
  by_contra uncovered
  push Not at uncovered
  rcases leftmost.complete start behind inside uncovered with
    nothing | ⟨other, foundOther, notFree⟩
  · cases nothing.symm.trans found
  · cases foundOther.symm.trans found
    rw [isFree] at notFree
    cases notFree

/-- A free occurrence begins in or behind the first chosen one. -/
theorem start_le (leftmost : query.IsLeftmost sentence free place chosen)
    (found : query.occurrenceAt? sentence occurrence.start = .ok (some occurrence))
    (isFree : free occurrence = true) (behind : place ≤ occurrence.start) :
    ∃ first ∈ chosen.head?, first.start ≤ occurrence.start := by
  obtain ⟨covering, member, covers⟩ := leftmost.exists_covers found isFree behind
  cases chosen with
  | nil => cases member
  | cons first others =>
      refine ⟨first, rfl, ?_⟩
      rcases List.mem_cons.mp member with rfl | member
      · exact covers.1
      · have ordered := (List.pairwise_cons.mp leftmost.ordered).1 covering member
        have firstForward := leftmost.nonempty first List.mem_cons_self
        have := covers.1
        omega

theorem unique (leftmost : query.IsLeftmost sentence free place chosen) {other : List Occurrence}
    (otherLeftmost : query.IsLeftmost sentence free place other) : other = chosen := by
  induction chosen generalizing place other with
  | nil =>
      cases other with
      | nil => rfl
      | cons occurrence later =>
          rcases leftmost.start_le (otherLeftmost.found occurrence List.mem_cons_self)
            (otherLeftmost.allFree occurrence List.mem_cons_self)
            (otherLeftmost.behind occurrence List.mem_cons_self) with ⟨first, absent, -⟩
          cases absent
  | cons occurrence later induction =>
      have found := leftmost.found occurrence List.mem_cons_self
      rcases otherLeftmost.start_le found (leftmost.allFree occurrence List.mem_cons_self)
        (leftmost.behind occurrence List.mem_cons_self) with ⟨first, isFirst, first_le⟩
      cases other with
      | nil => cases isFirst
      | cons otherOccurrence otherLater =>
          rcases Option.some.inj isFirst with rfl
          have otherFound := otherLeftmost.found otherOccurrence List.mem_cons_self
          rcases leftmost.start_le otherFound
            (otherLeftmost.allFree otherOccurrence List.mem_cons_self)
            (otherLeftmost.behind otherOccurrence List.mem_cons_self) with ⟨_, isFirst, le_first⟩
          rcases Option.some.inj isFirst with rfl
          -- both begin at the same place, where the query gives one answer
          rw [Nat.le_antisymm first_le le_first, found] at otherFound
          rcases Option.some.inj (Except.ok.inj otherFound) with rfl
          rw [induction leftmost.tail otherLeftmost.tail]

end IsLeftmost

/-! ## Scans make this choice -/

variable {α : Type} {visit : Occurrence → Except SearchError (Option α)} {fuel : Nat}

theorem scan_of_none (inside : place < sentence.length)
    (answered : query.occurrenceAt? sentence place = .ok none) :
    query.scan sentence visit (fuel + 1) place = query.scan sentence visit fuel (place + 1) := by
  rw [scan, if_pos inside, answered]
  rfl

theorem scan_of_some (inside : place < sentence.length)
    (found : query.occurrenceAt? sentence place = .ok (some occurrence)) :
    query.scan sentence visit (fuel + 1) place =
      visit occurrence >>= fun result? =>
        match result? with
        | none => query.scan sentence visit fuel (place + 1)
        | some result => query.scan sentence visit fuel occurrence.stop >>= fun results =>
            .ok (result :: results) := by
  rw [scan, if_pos inside, found]
  rfl

/-- The search of a place does not fail if the scan from there on gives a result. -/
theorem exists_answer_of_scan (inside : place < sentence.length) {results : List α}
    (scanned : query.scan sentence visit (fuel + 1) place = .ok results) :
    ∃ answer, query.occurrenceAt? sentence place = .ok answer := by
  rw [scan, if_pos inside] at scanned
  rcases Outcome.bind_eq_ok_iff.mp scanned with ⟨answer, answered, -⟩
  exact ⟨answer, answered⟩

/--
A scan that takes what is free reports the leftmost choice, in order.  This holds if it gives a
result, or if at least none of its searches fails.
-/
theorem scan_eq_mapM {report : Occurrence → Except SearchError α}
    (visit_eq : ∀ occurrence,
      visit occurrence = if free occurrence then some <$> report occurrence else .ok none)
    (enough : sentence.length ≤ place + fuel)
    (searched : (∃ results, query.scan sentence visit fuel place = .ok results) ∨
      ∀ start, ∃ answer, query.occurrenceAt? sentence start = .ok answer) :
    ∃ chosen, query.scan sentence visit fuel place = chosen.mapM report ∧
      query.IsLeftmost sentence free place chosen := by
  induction fuel generalizing place with
  | zero => exact ⟨[], rfl, .nil enough⟩
  | succ fuel induction =>
      by_cases inside : place < sentence.length
      case neg => exact ⟨[], by rw [scan, if_neg inside]; rfl, .nil (Nat.le_of_not_lt inside)⟩
      case pos =>
          obtain ⟨answer, answered⟩ :
              ∃ answer, query.occurrenceAt? sentence place = .ok answer := by
            rcases searched with ⟨results, scanned⟩ | searched
            · exact exists_answer_of_scan inside scanned
            · exact searched place
          cases answer with
          | none =>
              rw [scan_of_none inside answered] at searched ⊢
              rcases induction (by omega) searched with ⟨chosen, scan_eq, leftmost⟩
              exact ⟨chosen, scan_eq, leftmost.pass (Or.inl answered)⟩
          | some occurrence =>
              have forward := (meets_of_occurrenceAt? answered).start_lt_stop
              rw [scan_of_some inside answered, visit_eq] at searched ⊢
              cases isFree : free occurrence with
              | false =>
                  rw [isFree] at searched
                  rcases induction (by omega) searched with ⟨chosen, scan_eq, leftmost⟩
                  exact ⟨chosen, scan_eq, leftmost.pass (Or.inr ⟨occurrence, answered, isFree⟩)⟩
              | true =>
                  have onward :
                      (∃ results, query.scan sentence visit fuel occurrence.stop = .ok results) ∨
                        ∀ start, ∃ answer, query.occurrenceAt? sentence start = .ok answer := by
                    refine searched.imp_left fun ⟨results, scanned⟩ => ?_
                    rw [isFree, if_pos rfl] at scanned
                    rcases Outcome.bind_eq_ok_iff.mp scanned with ⟨taken, taken_eq, scanned⟩
                    rcases Outcome.map_eq_ok_iff.mp taken_eq with ⟨result, -, rfl⟩
                    rcases Outcome.bind_eq_ok_iff.mp scanned with ⟨others, scanned, -⟩
                    exact ⟨others, scanned⟩
                  rcases induction (by omega) onward with ⟨later, scan_eq, leftmost⟩
                  refine ⟨occurrence :: later, ?_, leftmost.take answered isFree⟩
                  rw [List.mapM_cons, ← scan_eq]
                  cases report occurrence <;> rfl

/-- The occurrences in a sentence are the leftmost ones. -/
theorem occurrences_isLeftmost
    (searched : (∃ chosen, query.occurrences sentence = .ok chosen) ∨
      ∀ start, ∃ answer, query.occurrenceAt? sentence start = .ok answer) :
    ∃ chosen, query.occurrences sentence = .ok chosen ∧
      query.IsLeftmost sentence (fun _ => true) 0 chosen := by
  have visit_eq (occurrence : Occurrence) :
      (Except.ok (some occurrence) : Except SearchError (Option Occurrence)) =
        if (fun _ : Occurrence => true) occurrence then some <$> Except.ok occurrence
        else .ok none :=
    rfl
  rcases scan_eq_mapM visit_eq (Nat.le_of_eq (Nat.zero_add _).symm) searched with
    ⟨chosen, scan_eq, leftmost⟩
  refine ⟨chosen, scan_eq.trans ?_, leftmost⟩
  rw [Outcome.mapM_eq_ok_iff, List.forall₂_same]
  exact fun _ _ => rfl

end Query

end PhraseRules
