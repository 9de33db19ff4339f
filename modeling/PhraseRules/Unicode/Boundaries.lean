import PhraseRules.Unicode.Category
import PhraseRules.Unicode.Folding
import PhraseRules.Unicode.ScriptExtension

/-!
# Boundaries of sets of code points

A set of code points is listed by its boundaries: the increasing code points at which membership
changes, beginning outside the set.  Operations on sets become merges of such lists, and the ranges
of a set are the stretches between an odd boundary and the next even one.
-/

namespace PhraseRules.Unicode

/-- The code points at which membership in a set changes, in increasing order. -/
abbrev Boundaries : Type :=
  List Nat

/-- The code point behind the last one. -/
def codePointEnd : Nat := 0x110000

namespace Boundaries

/-- The boundaries of sorted disjoint ranges; ranges that touch become one. -/
def ofRanges : List (Nat × Nat) → Boundaries
  | [] => []
  | (first, last) :: later =>
      match ofRanges later with
      | next :: boundaries =>
          if next = last + 1 then first :: boundaries
          else first :: (last + 1) :: next :: boundaries
      | [] => [first, last + 1]

/-- The boundaries of the complement. -/
def complement : Boundaries → Boundaries
  | 0 :: later => later
  | boundaries => 0 :: boundaries

/--
The boundaries of the code points that are kept, by whether each of two sets holds them.  What
neither set holds is not kept.  `inLeft`, `inRight` and `kept` tell what holds before the boundaries
that are left.
-/
def combineFrom (keep : Bool → Bool → Bool) (inLeft inRight kept : Bool) :
    Boundaries → Boundaries → Boundaries
  | [], [] => []
  | left :: later, [] => step left (!inLeft) inRight later []
  | [], right :: later => step right inLeft (!inRight) [] later
  | left :: leftLater, right :: rightLater =>
      if left < right then step left (!inLeft) inRight leftLater (right :: rightLater)
      else if right < left then step right inLeft (!inRight) (left :: leftLater) rightLater
      else step left (!inLeft) (!inRight) leftLater rightLater
termination_by left right => 2 * (left.length + right.length)
where
  /-- Goes on behind a boundary of either set. -/
  step (boundary : Nat) (inLeft inRight : Bool) (left right : Boundaries) : Boundaries :=
    let keptNext := keep inLeft inRight
    let later := combineFrom keep inLeft inRight keptNext left right
    if keptNext == kept then later else boundary :: later
  termination_by 2 * (left.length + right.length) + 1

/-- The boundaries of the code points that are kept, by whether each of two sets holds them. -/
def combine (keep : Bool → Bool → Bool) (left right : Boundaries) : Boundaries :=
  combineFrom keep false false false left right

/-- The boundaries of the union. -/
def union (left right : Boundaries) : Boundaries :=
  combine (· || ·) left right

/-- The boundaries of code points that need not be sorted. -/
def ofPoints (points : List Nat) : Boundaries :=
  ofRanges ((points.mergeSort.eraseReps).map fun point => (point, point))

/-- The ranges between the boundaries. -/
def toRanges : Boundaries → List (Nat × Nat)
  | [] => []
  | [first] => [(first, codePointEnd - 1)]
  | first :: next :: later => (first, next - 1) :: toRanges later

end Boundaries

/-- The boundaries of the property that blocks spell out. -/
def boundariesOfBlocks (blocks : List RangeBlock) : Boundaries :=
  .ofRanges (blocks.flatMap (·.ranges))

/-- The ranges of a row whose code points have one of the categories. -/
def CategoryRow.rangesWithin (row : CategoryRow) (members : List Category) : List (Nat × Nat) :=
  if row.code = alternatingCode then
    ((List.range' row.first (row.last + 1 - row.first)).filter fun point =>
      members.contains (row.category point)).map fun point => (point, point)
  else if members.contains (row.category row.first) then [(row.first, row.last)]
  else []

/-- The boundaries of the characters with one of the categories. -/
def boundariesOfCategories (members : List Category) : Boundaries :=
  let rows := (lowBlocks ++ middleBlocks ++ highBlocks).flatMap (·.rows)
  let assigned := rows.flatMap (·.rangesWithin members)
  if members.contains .unassigned then
    let unassigned := (Boundaries.ofRanges (rows.map fun row => (row.first, row.last))).complement
    (Boundaries.ofRanges assigned).union unassigned
  else
    .ofRanges assigned

/-- The boundaries of the characters of a script. -/
def boundariesOfScript (number : Nat) : Boundaries :=
  let rows := (scriptBlocks.flatMap (·.rows)).filter (·.script == number)
  .ofRanges (rows.map fun row => (row.first, row.last))

/-- The boundaries of the characters that are used with a script. -/
def boundariesOfScriptExtension (number : Nat) : Boundaries :=
  let restricted (rows : List ScriptRow) : Boundaries :=
    .ofPoints (rows.flatMap fun row => List.range' row.first (row.last + 1 - row.first))
  if sharedScripts.contains number then
    .combine (fun own other => own && !other) (boundariesOfScript number) (restricted extensionRows)
  else
    (boundariesOfScript number).union (restricted (extensionRows.filter (·.script == number)))

/-- The code points that a run sends elsewhere. -/
def MappingRun.points (run : MappingRun) : List Nat :=
  List.range' run.first ((run.last - run.first) / run.step + 1) run.step

/-- The boundaries of the characters that a mapping with expansions changes. -/
def boundariesOfMapping (runs : List MappingBlock) (expansions : List (Nat × List Nat)) :
    Boundaries :=
  .ofPoints ((runs.flatMap (·.runs)).flatMap MappingRun.points ++ expansions.map (·.1))

/-- All characters that differ from another one in case alone and are not the least that do. -/
def greaterVariants : List Char :=
  ((leastVariantRuns.flatMap (·.runs)).flatMap MappingRun.points).map Char.ofNat

/-- The boundaries of the members of a set that have case variants, and of these variants. -/
def boundariesOfVariants (holds : Char → Bool) : Boundaries :=
  let closed := greaterVariants.filterMap fun c =>
    let variants := caseVariants c
    if variants.any holds then some (variants.map Char.toNat) else none
  .ofPoints closed.flatten

end PhraseRules.Unicode
