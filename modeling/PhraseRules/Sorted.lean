/-!
# Lists without repetitions

Lists of distinct elements in the order in which they came or in increasing order, and maps whose
entries are listed by increasing key.
-/

namespace PhraseRules

/-- The elements that were not seen before, each once, in the order of their first occurrence. -/
def distinctBeyond {α : Type} [BEq α] (seen : List α) : List α → List α
  | [] => []
  | element :: later =>
      if seen.contains element then distinctBeyond seen later
      else element :: distinctBeyond (element :: seen) later

/-- The elements without repetitions, in the order of their first occurrence. -/
def distinct {α : Type} [BEq α] (elements : List α) : List α :=
  distinctBeyond [] elements

/-- Adds an element to a sorted list of distinct elements. -/
def insertSorted {α : Type} [Ord α] (element : α) : List α → List α
  | [] => [element]
  | first :: later =>
      match compare element first with
      | .lt => element :: first :: later
      | .eq => first :: later
      | .gt => first :: insertSorted element later

/-- The distinct elements of a list in increasing order. -/
def sortDistinct {α : Type} [Ord α] (elements : List α) : List α :=
  elements.foldr insertSorted []

/-- A map from keys to values, sorted by key. -/
abbrev SortedMap (κ α : Type) : Type :=
  List (κ × α)

namespace SortedMap

/-- Sets the value of a key. -/
def set {κ α : Type} [Ord κ] (key : κ) (value : α) : SortedMap κ α → SortedMap κ α
  | [] => [(key, value)]
  | (first, old) :: later =>
      match compare key first with
      | .lt => (key, value) :: (first, old) :: later
      | .eq => (key, value) :: later
      | .gt => (first, old) :: set key value later

/-- The value of a key. -/
def find? {κ α : Type} [Ord κ] (key : κ) : SortedMap κ α → Option α
  | [] => none
  | (first, value) :: later =>
      if compare key first == .eq then some value else find? key later

/-- The keys in increasing order. -/
def keys {κ α : Type} (entries : SortedMap κ α) : List κ :=
  entries.map Prod.fst

end SortedMap

end PhraseRules
