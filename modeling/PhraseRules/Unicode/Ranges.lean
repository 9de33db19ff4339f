/-!
# Sorted ranges of code points

A property of characters is written as the sorted, disjoint ranges of code points that have it.
The ranges come in blocks, each headed by its last code point, so that a lookup passes over whole
blocks before it reads ranges.  A mapping of characters is written the same way, as runs that
send an arithmetic progression of code points onto another one.
-/

namespace PhraseRules.Unicode

/-- Sorted disjoint ranges, none of which ends after `last`. -/
structure RangeBlock where
  last : Nat
  ranges : List (Nat × Nat)

/-- Whether one of the ranges holds the code point. -/
def inRanges (point : Nat) : List (Nat × Nat) → Bool
  | [] => false
  | (first, last) :: later =>
      if point < first then false
      else if point ≤ last then true
      else inRanges point later

/-- Whether the property that the blocks spell out holds of the code point. -/
def inBlocks (point : Nat) : List RangeBlock → Bool
  | [] => false
  | block :: later =>
      if point ≤ block.last then inRanges point block.ranges else inBlocks point later

/--
The code points `first`, `first + step`, … up to `last` are sent to `target`, `target + step`, ….
-/
structure MappingRun where
  first : Nat
  last : Nat
  step : Nat
  target : Nat

/-- The image of the code point under a run that covers it. -/
def MappingRun.apply? (run : MappingRun) (point : Nat) : Option Nat :=
  if run.first ≤ point ∧ point ≤ run.last ∧ (point - run.first) % run.step = 0 then
    some (run.target + (point - run.first))
  else
    none

/-- The image of the code point under the first run that covers it; the runs are sorted. -/
def mapInRuns (point : Nat) : List MappingRun → Option Nat
  | [] => none
  | run :: later =>
      if point < run.first then none
      else match run.apply? point with
        | some image => some image
        | none => mapInRuns point later

/-- Sorted runs, none of which ends after `last`. -/
structure MappingBlock where
  last : Nat
  runs : List MappingRun

/-- The image of the code point under the mapping that the blocks spell out. -/
def mapInBlocks (point : Nat) : List MappingBlock → Option Nat
  | [] => none
  | block :: later =>
      if point ≤ block.last then mapInRuns point block.runs else mapInBlocks point later

end PhraseRules.Unicode
