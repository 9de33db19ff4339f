import PhraseRules.Sorted
import Mathlib.Data.List.Pairwise

/-!
# Sorted maps

A sorted map lists its keys in increasing order, so no key occurs twice and an entry is what the
search for its key finds.
-/

namespace PhraseRules.SortedMap

variable {κ α : Type} [Ord κ]

/-- The keys increase from one entry to the next. -/
def IsSorted (entries : SortedMap κ α) : Prop :=
  entries.Pairwise fun first second => compare first.1 second.1 = .lt

theorem isSorted_nil : IsSorted ([] : SortedMap κ α) :=
  List.Pairwise.nil

/-- The entries of a map after a key was set are that of the key and earlier ones. -/
theorem mem_set {key : κ} {value : α} {entries : SortedMap κ α} {entry : κ × α}
    (member : entry ∈ set key value entries) : entry = (key, value) ∨ entry ∈ entries := by
  induction entries with
  | nil => exact Or.inl (List.mem_singleton.mp member)
  | cons first later induction =>
      rcases first with ⟨firstKey, old⟩
      rw [set] at member
      split at member
      · exact List.mem_cons.mp member
      · rcases List.mem_cons.mp member with equal | member
        · exact Or.inl equal
        · exact Or.inr (List.mem_cons_of_mem _ member)
      · rcases List.mem_cons.mp member with equal | member
        · exact Or.inr (List.mem_cons.mpr (Or.inl equal))
        · exact (induction member).imp id (List.mem_cons_of_mem _)

theorem set_ne_nil (key : κ) (value : α) (entries : SortedMap κ α) :
    set key value entries ≠ [] := by
  cases entries with
  | nil => exact List.cons_ne_nil _ _
  | cons first later =>
      rw [set]
      split <;> exact List.cons_ne_nil _ _

/-! ## Maps with comparable keys -/

variable [Std.LawfulEqOrd κ]

/-- What is found for a key is an entry of the map. -/
theorem mem_of_find? {entries : SortedMap κ α} {key : κ} {value : α}
    (found : find? key entries = some value) : (key, value) ∈ entries := by
  induction entries with
  | nil => cases found
  | cons first later induction =>
      rcases first with ⟨firstKey, old⟩
      rw [find?] at found
      split at found
      case isTrue same =>
          have equal : key = firstKey := Std.LawfulEqOrd.eq_of_compare (by simpa using same)
          rw [equal, Option.some.inj found]
          exact List.mem_cons_self
      case isFalse differ => exact List.mem_cons_of_mem _ (induction found)

/-- An entry of a sorted map is what is found for its key. -/
theorem IsSorted.mem_iff_find? {entries : SortedMap κ α} (sorted : IsSorted entries) {key : κ}
    {value : α} : (key, value) ∈ entries ↔ find? key entries = some value := by
  constructor
  · intro member
    induction entries with
    | nil => cases member
    | cons first later induction =>
        rcases first with ⟨firstKey, old⟩
        rcases List.pairwise_cons.mp sorted with ⟨firstLess, laterSorted⟩
        rw [find?]
        rcases List.mem_cons.mp member with equal | member
        · rcases Prod.mk.inj equal with ⟨rfl, rfl⟩
          have same : compare key key = .eq := Std.ReflCmp.compare_self
          rw [same]
          rfl
        · -- the key comes behind the first one, so it is another
          have differ : ¬(compare key firstKey == .eq) = true := by
            intro same
            have equal : key = firstKey := Std.LawfulEqOrd.eq_of_compare (by simpa using same)
            have less := firstLess _ member
            rw [equal] at less
            cases (Std.ReflCmp.compare_self : compare firstKey firstKey = .eq).symm.trans less
          rw [if_neg differ]
          exact induction laterSorted member
  · exact mem_of_find?

theorem IsSorted.set [Std.TransOrd κ] {entries : SortedMap κ α} (sorted : IsSorted entries)
    (key : κ) (value : α) : IsSorted (SortedMap.set key value entries) := by
  induction entries with
  | nil => exact List.pairwise_singleton _ _
  | cons first later induction =>
      rcases first with ⟨firstKey, old⟩
      rcases List.pairwise_cons.mp sorted with ⟨firstLess, laterSorted⟩
      rw [SortedMap.set]
      split
      case h_1 less =>
          refine List.pairwise_cons.mpr ⟨?_, sorted⟩
          intro entry member
          rcases List.mem_cons.mp member with rfl | member
          · exact less
          · exact Std.TransCmp.lt_trans less (firstLess entry member)
      case h_2 equal =>
          refine List.pairwise_cons.mpr ⟨?_, laterSorted⟩
          intro entry member
          rw [Std.LawfulEqOrd.eq_of_compare equal]
          exact firstLess entry member
      case h_3 greater =>
          refine List.pairwise_cons.mpr ⟨?_, induction laterSorted⟩
          intro entry member
          rcases mem_set member with rfl | member
          · exact Std.OrientedCmp.lt_of_gt greater
          · exact firstLess entry member

end PhraseRules.SortedMap
