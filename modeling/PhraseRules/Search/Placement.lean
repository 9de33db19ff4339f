import PhraseRules.Search.Query

/-!
# Placements

A placement puts a run of words into a slot.  From a place in a sentence the placements of a slot
are tried in a fixed order: those that skip fewer words first, and of those that skip as many the
longer runs first.
-/

namespace PhraseRules

/-- How many words may be skipped; nothing stands for any number. -/
abbrev Allowance : Type :=
  Option Nat

/-- The words of a run, from `start` on, with the numbers of the readings that fill the slot. -/
structure Placement where
  start : Nat
  readings : List (List Nat)
deriving DecidableEq, Repr

/-- The place behind the run. -/
def Placement.stop (placement : Placement) : Nat :=
  placement.start + placement.readings.length

/-- The words of the run bound to a slot. -/
def Placement.bindings (placement : Placement) (slot : Nat) : List Binding :=
  placement.readings.mapIdx fun offset readings =>
    ⟨slot, placement.start + offset, readings⟩

/--
The places from `place` on at which a run may start.  A word that is an exception to what follows
the slot before ends the search for them.
-/
def landings (before : Option Slot) : Allowance → (place : Nat) → List Position → List Nat
  | _, _, [] => []
  | allowance, place, position :: later =>
      if before.any (·.excepts .next position) then []
      else
        match allowance with
        | none => place :: landings before none (place + 1) later
        | some 0 => [place]
        | some (fewer + 1) => place :: landings before (some fewer) (place + 1) later

namespace Query

/-- The bound readings of the words that fill a slot, as many as there are and as it takes. -/
def runOf (query : Query) (slot : Slot) : (limit : Option Nat) → List Position → List (List Nat)
  | _, [] => []
  | limit, position :: later =>
      if limit == some 0 || !query.accepts slot position then []
      else slot.boundReadings position :: query.runOf slot (limit.map (· - 1)) later

/-- The numbers of words to put into a slot when `longest` would fill it, most first. -/
def repetitions (least longest : Nat) : List Nat :=
  (List.range' (max least 1) (longest + 1 - max least 1)).reverse

/-- The placements that start at one place. -/
def placementsAt (query : Query) (slot : Slot) (positions : List Position) (start : Nat) :
    List Placement :=
  let forbidden := match start with
    | 0 => false
    | previous + 1 => positions[previous]?.any (slot.excepts .previous)
  if forbidden then []
  else
    let run := query.runOf slot slot.most (positions.drop start)
    (repetitions slot.least run.length).map fun count => ⟨start, run.take count⟩

/-- The placements of a slot from a place on, behind the slot `before`, in the order in which they
are tried. -/
def placements (query : Query) (slot : Slot) (before : Option Slot) (allowance : Allowance)
    (positions : List Position) (place : Nat) : List Placement :=
  (landings before allowance place (positions.drop place)).flatMap
    (query.placementsAt slot positions)

end Query

end PhraseRules
