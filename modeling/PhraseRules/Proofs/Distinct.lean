import Mathlib.Data.List.Forall2
import Mathlib.Data.List.Nodup
import PhraseRules.Sorted

/-!
# Lists without repetitions

What `distinct` keeps of a list.  Where each element of a list is replaced by several others,
repetitions can be dropped before as well as after it: what is kept in the end is the same, in the
same order (`AgreesOnFirst.flatMap`).  What `sortDistinct` keeps is in increasing order.
-/

namespace PhraseRules

variable {α β : Type} [BEq α] [LawfulBEq α] [BEq β] [LawfulBEq β]

theorem mem_distinctBeyond_iff {seen elements : List α} {element : α} :
    element ∈ distinctBeyond seen elements ↔ element ∈ elements ∧ element ∉ seen := by
  induction elements generalizing seen with
  | nil => simp [distinctBeyond]
  | cons first later induction =>
      rw [distinctBeyond]
      split
      case isTrue isSeen =>
          rw [List.contains_iff_mem] at isSeen
          rw [induction, List.mem_cons]
          constructor
          · rintro ⟨member, unseen⟩
            exact ⟨Or.inr member, unseen⟩
          · rintro ⟨rfl | member, unseen⟩
            · exact absurd isSeen unseen
            · exact ⟨member, unseen⟩
      case isFalse unseen =>
          rw [List.contains_iff_mem] at unseen
          rw [List.mem_cons, induction, List.mem_cons, List.mem_cons, not_or]
          by_cases equal : element = first
          · simp [equal, unseen]
          · simp [equal]

theorem mem_distinct_iff {elements : List α} {element : α} :
    element ∈ distinct elements ↔ element ∈ elements := by
  simp [distinct, mem_distinctBeyond_iff]

theorem nodup_distinctBeyond (seen elements : List α) : (distinctBeyond seen elements).Nodup := by
  induction elements generalizing seen with
  | nil => exact List.nodup_nil
  | cons first later induction =>
      rw [distinctBeyond]
      split
      case isTrue => exact induction seen
      case isFalse =>
          refine List.nodup_cons.mpr ⟨?_, induction (first :: seen)⟩
          rw [mem_distinctBeyond_iff]
          exact fun member => member.2 List.mem_cons_self

theorem nodup_distinct (elements : List α) : (distinct elements).Nodup :=
  nodup_distinctBeyond [] elements

omit [LawfulBEq α] in
theorem distinctBeyond_sublist (seen elements : List α) :
    (distinctBeyond seen elements).Sublist elements := by
  induction elements generalizing seen with
  | nil => exact .slnil
  | cons first later induction =>
      rw [distinctBeyond]
      split
      case isTrue => exact (induction seen).cons first
      case isFalse => exact (induction (first :: seen)).cons_cons first

omit [LawfulBEq α] in
theorem distinct_sublist (elements : List α) : (distinct elements).Sublist elements :=
  distinctBeyond_sublist [] elements

/-- It does not matter in which order elements were seen, or how often. -/
theorem distinctBeyond_congr {seen other : List α}
    (same : ∀ element, element ∈ seen ↔ element ∈ other) (elements : List α) :
    distinctBeyond seen elements = distinctBeyond other elements := by
  induction elements generalizing seen other with
  | nil => rfl
  | cons first later induction =>
      have contains_eq : seen.contains first = other.contains first := by
        rw [Bool.eq_iff_iff, List.contains_iff_mem, List.contains_iff_mem, same]
      have sameBehind : ∀ element, element ∈ first :: seen ↔ element ∈ first :: other :=
        fun element => by rw [List.mem_cons, List.mem_cons, same]
      rw [distinctBeyond, distinctBeyond, contains_eq, induction same, induction sameBehind]

theorem distinctBeyond_append (seen elements later : List α) :
    distinctBeyond seen (elements ++ later) =
      distinctBeyond seen elements ++ distinctBeyond (elements ++ seen) later := by
  induction elements generalizing seen with
  | nil => rfl
  | cons first others induction =>
      rw [List.cons_append, distinctBeyond, distinctBeyond, induction, induction]
      split
      case isTrue isSeen =>
          rw [List.contains_iff_mem] at isSeen
          congr 1
          apply distinctBeyond_congr
          intro element
          rw [List.cons_append, List.mem_cons]
          constructor
          · exact Or.inr
          · rintro (rfl | member)
            · exact List.mem_append_right _ isSeen
            · exact member
      case isFalse =>
          rw [List.cons_append]
          congr 2
          apply distinctBeyond_congr
          exact fun element => List.perm_middle.mem_iff

omit [LawfulBEq α] in
/-- What is left are the first occurrences of the elements that were not seen. -/
theorem distinctBeyond_eq_eraseDups (seen elements : List α) :
    distinctBeyond seen elements = (elements.removeAll seen).eraseDups := by
  induction elements generalizing seen with
  | nil => rfl
  | cons first later induction =>
      rw [distinctBeyond, List.cons_removeAll]
      cases isSeen : seen.contains first with
      | true => simp only [if_true, Bool.true_eq_false, if_false, induction]
      | false =>
          simp only [Bool.false_eq_true, if_false, if_true]
          rw [List.eraseDups_cons, induction, List.removeAll_cons, List.removeAll, List.removeAll,
            List.filter_filter, List.filter_filter]
          simp only [Bool.and_comm]

omit [LawfulBEq α] in
theorem distinct_eq_eraseDups (elements : List α) : distinct elements = elements.eraseDups := by
  rw [distinct, distinctBeyond_eq_eraseDups, List.removeAll_nil]

/-- New elements can be added behind a list in several rounds. -/
theorem append_distinctBeyond_append (elements further later : List α) :
    elements ++ distinctBeyond elements (further ++ later) =
      (elements ++ distinctBeyond elements further) ++
        distinctBeyond (elements ++ distinctBeyond elements further) later := by
  rw [distinctBeyond_append, List.append_assoc]
  congr 2
  apply distinctBeyond_congr
  intro element
  rw [List.mem_append, List.mem_append, mem_distinctBeyond_iff]
  by_cases member : element ∈ elements
  · simp [member]
  · simp [member]

theorem nodup_append_distinctBeyond {elements : List α} (nodup : elements.Nodup)
    (further : List α) : (elements ++ distinctBeyond elements further).Nodup := by
  refine List.nodup_append'.mpr ⟨nodup, nodup_distinctBeyond elements further, ?_⟩
  exact fun element member added => (mem_distinctBeyond_iff.mp added).2 member

theorem distinctBeyond_eq_nil {seen elements : List α} (known : elements ⊆ seen) :
    distinctBeyond seen elements = [] := by
  refine List.eq_nil_iff_forall_not_mem.mpr fun element member => ?_
  rw [mem_distinctBeyond_iff] at member
  exact member.2 (known member.1)

/-- Elements that were all seen before add nothing. -/
theorem distinctBeyond_append_of_subset {seen elements : List α} (known : elements ⊆ seen)
    (later : List α) : distinctBeyond seen (elements ++ later) = distinctBeyond seen later := by
  rw [distinctBeyond_append, distinctBeyond_eq_nil known, List.nil_append]
  refine distinctBeyond_congr (fun element => ?_) later
  rw [List.mem_append, or_iff_right_of_imp fun member => known member]

/--
Behind whatever was seen before, the two lists have the same new elements, first met in the same
order.
-/
def AgreesOnFirst (elements others : List α) : Prop :=
  ∀ seen, distinctBeyond seen elements = distinctBeyond seen others

namespace AgreesOnFirst

variable {elements others : List α}

theorem mem_iff (agrees : AgreesOnFirst elements others) {element : α} :
    element ∈ elements ↔ element ∈ others := by
  rw [← mem_distinct_iff, distinct, agrees [], ← distinct, mem_distinct_iff]

/--
Repetitions can be dropped before each element is replaced.  The elements that are dropped have the
replacements of one that was kept, so that all of these were seen.
-/
theorem flatMap_distinctBeyond (replace : α → List β) {dropped : List α} {seen : List β}
    (known : ∀ element ∈ dropped, replace element ⊆ seen) :
    distinctBeyond seen ((distinctBeyond dropped elements).flatMap replace) =
      distinctBeyond seen (elements.flatMap replace) := by
  induction elements generalizing dropped seen with
  | nil => rfl
  | cons first later induction =>
      rw [distinctBeyond, List.flatMap_cons]
      split
      case isTrue isDropped =>
          rw [List.contains_iff_mem] at isDropped
          rw [induction known, distinctBeyond_append_of_subset (known first isDropped)]
      case isFalse =>
          rw [List.flatMap_cons, distinctBeyond_append, distinctBeyond_append, induction]
          intro element member
          rcases List.mem_cons.mp member with rfl | member
          · exact List.subset_append_left _ _
          · exact List.Subset.trans (known element member) (List.subset_append_right _ _)

theorem flatMap_distinct (elements : List α) (replace : α → List β) :
    AgreesOnFirst ((distinct elements).flatMap replace) (elements.flatMap replace) :=
  fun _ => flatMap_distinctBeyond replace fun _ member => by cases member

theorem flatMap (agrees : AgreesOnFirst elements others) (replace : α → List β) :
    AgreesOnFirst (elements.flatMap replace) (others.flatMap replace) := by
  intro seen
  rw [← flatMap_distinct elements replace seen, ← flatMap_distinct others replace seen, distinct,
    agrees [], distinct]

theorem append {later laterOther : List α} (agrees : AgreesOnFirst elements others)
    (agreesLater : AgreesOnFirst later laterOther) :
    AgreesOnFirst (elements ++ later) (others ++ laterOther) := by
  intro seen
  have sameSeen : ∀ element, element ∈ elements ++ seen ↔ element ∈ others ++ seen :=
    fun element => by rw [List.mem_append, List.mem_append, agrees.mem_iff]
  rw [distinctBeyond_append, distinctBeyond_append, agrees seen, agreesLater,
    distinctBeyond_congr sameSeen]

theorem map (agrees : AgreesOnFirst elements others) (change : α → β) :
    AgreesOnFirst (elements.map change) (others.map change) := by
  rw [List.map_eq_flatMap, List.map_eq_flatMap]
  exact agrees.flatMap _

theorem filter (agrees : AgreesOnFirst elements others) (keeps : α → Bool) :
    AgreesOnFirst (elements.filter keeps) (others.filter keeps) := by
  rw [← List.filterMap_eq_filter, List.filterMap_eq_flatMap_toList,
    List.filterMap_eq_flatMap_toList]
  exact agrees.flatMap _

/-- Lists that are made of pieces agree if the pieces do. -/
theorem flatten {pieces piecesOther : List (List α)}
    (agrees : List.Forall₂ AgreesOnFirst pieces piecesOther) :
    AgreesOnFirst pieces.flatten piecesOther.flatten := by
  induction agrees with
  | nil => exact fun _ => rfl
  | cons first later induction =>
      rw [List.flatten_cons, List.flatten_cons]
      exact first.append induction

end AgreesOnFirst

/-! ## In increasing order -/

theorem mem_insertSorted {α : Type} [Ord α] [Std.LawfulEqOrd α] {element added : α}
    {elements : List α} :
    element ∈ insertSorted added elements ↔ element = added ∨ element ∈ elements := by
  induction elements with
  | nil => simp [insertSorted]
  | cons first later induction =>
      rw [insertSorted]
      split
      case h_1 => exact List.mem_cons
      case h_2 same =>
          rw [Std.LawfulEqOrd.eq_of_compare same]
          simp
      case h_3 =>
          rw [List.mem_cons, induction, List.mem_cons]
          exact or_left_comm

theorem mem_sortDistinct {α : Type} [Ord α] [Std.LawfulEqOrd α] {element : α}
    {elements : List α} : element ∈ sortDistinct elements ↔ element ∈ elements := by
  induction elements with
  | nil => exact Iff.rfl
  | cons first later induction =>
      rw [sortDistinct, List.foldr_cons, mem_insertSorted, List.mem_cons, ← induction, sortDistinct]

/-- Each element is less than those behind it. -/
theorem pairwise_insertSorted {α : Type} [Ord α] [Std.LawfulEqOrd α] [Std.TransOrd α]
    {elements : List α}
    (sorted : elements.Pairwise fun first second => compare first second = .lt) (added : α) :
    (insertSorted added elements).Pairwise fun first second => compare first second = .lt := by
  induction elements with
  | nil => exact List.pairwise_singleton _ _
  | cons first later induction =>
      obtain ⟨firstLess, laterSorted⟩ := List.pairwise_cons.mp sorted
      rw [insertSorted]
      split
      case h_1 less =>
          refine List.pairwise_cons.mpr ⟨fun element member => ?_, sorted⟩
          rcases List.mem_cons.mp member with rfl | member
          · exact less
          · exact Std.TransCmp.lt_trans less (firstLess element member)
      case h_2 => exact sorted
      case h_3 greater =>
          refine List.pairwise_cons.mpr ⟨fun element member => ?_, induction laterSorted⟩
          rcases mem_insertSorted.mp member with rfl | member
          · exact Std.OrientedCmp.lt_of_gt greater
          · exact firstLess element member

theorem pairwise_sortDistinct {α : Type} [Ord α] [Std.LawfulEqOrd α] [Std.TransOrd α]
    (elements : List α) :
    (sortDistinct elements).Pairwise fun first second => compare first second = .lt := by
  induction elements with
  | nil => exact List.Pairwise.nil
  | cons first later induction => exact pairwise_insertSorted induction first

end PhraseRules
