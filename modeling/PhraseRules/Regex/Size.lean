import Std.Data.HashMap
import PhraseRules.Regex.Basic
import PhraseRules.Unicode.Boundaries
import PhraseRules.Unicode.Utf8

/-!
# The size of expressions

A search for an expression could run on an automaton that reads the bytes of a text, forwards or
backwards.  Repetitions with bounds are copied into it, so that a short expression can make it huge.
The size of both automata is counted here without building them; an expression for which one of them
is too large is refused.
-/

namespace PhraseRules.Regex

open PhraseRules.Unicode
open PhraseRules.Unicode.Utf8

/-! ## Sizes of sets -/

/-- The bytes that a state takes. -/
def stateSize : Nat := 32

/-- The bytes that each way out of a choice takes. -/
def branchSize : Nat := 4

/-- The bytes that each range of bytes that leads out of a state takes. -/
def rangeSize : Nat := 8

/-- The direction in which an automaton reads. -/
inductive Direction where
  | forward
  | backward
deriving DecidableEq, Repr

/-- The boundaries of a property. -/
def CharProperty.boundaries : CharProperty → Boundaries
  | .any => [0]
  | .ascii => [0, 128]
  | .assigned => (boundariesOfCategories [.unassigned]).complement
  | .alphabetic => boundariesOfBlocks alphabeticBlocks
  | .lowercase => boundariesOfBlocks lowercaseBlocks
  | .uppercase => boundariesOfBlocks uppercaseBlocks
  | .cased => boundariesOfBlocks casedBlocks
  | .caseIgnorable => boundariesOfBlocks caseIgnorableBlocks
  | .whiteSpace => boundariesOfBlocks whiteSpaceBlocks
  | .word =>
      ((boundariesOfBlocks alphabeticBlocks).union (boundariesOfCategories wordCategories)).union
        (.ofPoints joiners)
  | .categories members => boundariesOfCategories members
  | .script number => boundariesOfScript number
  | .usedWithScript number => boundariesOfScriptExtension number
  | .listed number => boundariesOfBlocks (blocksOfProperty number)
  | .changedByLowercase => boundariesOfMapping lowercaseRuns lowercaseExpansions
  | .changedByUppercase => boundariesOfMapping uppercaseRuns uppercaseExpansions

/-- The only member of a set that is given as a range of one character. -/
def CharSet.onlyChar? : CharSet → Option Char
  | .range first last => if first = last then some first else none
  | _ => none

/-- The boundaries of a set. -/
def CharSet.boundaries : CharSet → Boundaries
  | .empty => []
  | .range first last =>
      if first.toNat ≤ last.toNat then .ofRanges [(first.toNat, last.toNat)] else []
  | .having quality => quality.boundaries
  | .union left right => left.boundaries.union right.boundaries
  | .intersection left right => .combine (· && ·) left.boundaries right.boundaries
  | .difference left right => .combine (fun left right => left && !right) left.boundaries
      right.boundaries
  | .symmetricDifference left right => .combine (· != ·) left.boundaries right.boundaries
  | .complement set => set.boundaries.complement
  | .caseClosure set =>
      match set.onlyChar? with
      | some c => .ofPoints ((caseVariants c).map Char.toNat)
      | none => set.boundaries.union (boundariesOfVariants set.contains)

/-- The ways out of a state: ranges of bytes, and the numbers of the states to which they lead. -/
abbrev Transitions : Type :=
  List (ByteRange × Nat)

/-- Sequences that begin with the same range, without it, under that range. -/
def groupByHead : List (List ByteRange) → List (ByteRange × List (List ByteRange))
  | [] => []
  | [] :: later => groupByHead later
  | (range :: tail) :: later =>
      match groupByHead later with
      | (next, tails) :: groups =>
          if next = range then (range, tail :: tails) :: groups
          else (range, [tail]) :: (next, tails) :: groups
      | [] => [(range, [tail])]

/--
The number of the state that reads the sequences, which have at most `depth` ranges, when the
states in `known` are there already.  States with the same ways out are one.  The state behind all
sequences has the number zero.
-/
def stateFor (known : Std.HashMap Transitions Nat) :
    (depth : Nat) → List (List ByteRange) → Nat × Std.HashMap Transitions Nat
  | 0, _ => (0, known)
  | depth + 1, sequences =>
      let groups := groupByHead sequences
      if groups.isEmpty then (0, known)
      else
        let (transitions, known) := groups.foldl
          (fun (transitions, known) group =>
            let (target, known) := stateFor known depth group.2
            (transitions ++ [(group.1, target)], known))
          ([], known)
        match known[transitions]? with
        | some state => (state, known)
        | none => (known.size + 1, known.insert transitions (known.size + 1))

/-- The size of the states that read the sequences forwards. -/
def forwardSize (sequences : List (List ByteRange)) : Nat :=
  let (_, states) := stateFor ∅ 4 sequences
  states.fold
    (fun size transitions _ => size + stateSize + rangeSize * transitions.length) stateSize

/-- The number of ranges in sorted sequences, where those that begin alike share their beginnings.
-/
def sharedLength : (depth : Nat) → List (List ByteRange) → Nat
  | 0, _ => 0
  | depth + 1, sequences =>
      ((groupByHead sequences).map fun group => 1 + sharedLength depth group.2).sum

/-- The size of the states that read the sequences backwards. -/
def backwardSize (sequences : List (List ByteRange)) : Nat :=
  2 * stateSize + branchSize * sequences.length + stateSize * sharedLength 4 sequences

/-- The size of the states that read one character of a set. -/
def CharSet.size (direction : Direction) (set : CharSet) : Nat :=
  let ranges := set.boundaries.toRanges
  match ranges with
  | [(first, last)] =>
      if first = last then stateSize * byteCount first
      else ofRanges ranges
  | ranges => ofRanges ranges
where
  /-- The size for a set that is not a single character. -/
  ofRanges (ranges : List (Nat × Nat)) : Nat :=
    if ranges.all (·.2 < 128) then 2 * stateSize + rangeSize * ranges.length
    else
      let sequences := ranges.flatMap Utf8.sequences
      match direction with
      | .forward => forwardSize sequences
      | .backward => backwardSize sequences

/-! ## Sizes of expressions -/

/-- Whether the expression matches the empty text alone. -/
def Expr.isBlank : Expr → Bool
  | .empty | .look _ => true
  | .chars _ => false
  | .concat first second => first.isBlank && second.isBlank
  | .choice left right => left.isBlank && right.isBlank
  | .repetition body _ most _ => body.isBlank || most == some 0
  | .capture _ body => body.isBlank

/-- Whether the expression may match the empty text somewhere. -/
def Expr.mayBeBlank : Expr → Bool
  | .empty | .look _ => true
  | .chars _ => false
  | .concat first second => first.mayBeBlank && second.mayBeBlank
  | .choice left right => left.mayBeBlank || right.mayBeBlank
  | .repetition body least _ _ => least == 0 || body.mayBeBlank
  | .capture _ body => body.mayBeBlank

/-- What an expression adds to the size of an automaton. -/
structure Cost where
  size : Nat
  /-- What it adds as a branch, or as several branches, of a choice around it. -/
  asBranch : Nat
  /-- The set, if it asks for one character. -/
  set : Option CharSet
  isEmpty : Bool

namespace Cost

/-- The cost of an expression that is neither a set nor a choice. -/
def ofSize (size : Nat) : Cost :=
  ⟨size, size + branchSize, none, false⟩

/-- The cost of a set. -/
def ofSet (sizeOf : CharSet → Nat) (set : CharSet) : Cost :=
  let size := sizeOf set
  ⟨size, size + branchSize, some set, false⟩

/-- The cost of two expressions one after the other; the empty one costs nothing there. -/
def concat (first second : Cost) : Cost :=
  if first.isEmpty then second
  else if second.isEmpty then first
  else ofSize (first.size + second.size)

/-- The cost of a choice; between sets it is their union. -/
def choice (sizeOf : CharSet → Nat) (left right : Cost) : Cost :=
  match left.set, right.set with
  | some leftSet, some rightSet => ofSet sizeOf (.union leftSet rightSet)
  | _, _ =>
      let branches := left.asBranch + right.asBranch
      ⟨2 * stateSize + branches, branches, none, false⟩

/-- The size of a choice between two ways on. -/
def forkSize : Nat :=
  stateSize + 2 * branchSize

/-- The size of a repetition of an expression with a given size. -/
def repeated (size : Nat) (mayBeBlank : Bool) (least : Nat) (most : Option Nat) : Nat :=
  match most with
  | none =>
      if least = 0 then
        if mayBeBlank then size + 2 * forkSize + stateSize else size + forkSize
      else least * size + forkSize
  | some most =>
      if most = 0 then stateSize
      else if least = most then least * size
      else if least = 0 ∧ most = 1 then size + forkSize + stateSize
      else
        (if least = 0 then stateSize else least * size) + stateSize +
          (most - least) * (forkSize + size)

/-- The cost of a repetition.  An expression that matches the empty text alone is repeated at most
once. -/
def repetition (body : Cost) (isBlank mayBeBlank : Bool) (least : Nat) (most : Option Nat) : Cost :=
  let least := if isBlank then min least 1 else least
  let most := if isBlank then some (min (most.getD 1) 1) else most
  if least = 1 ∧ most = some 1 then body
  else { ofSize (repeated body.size mayBeBlank least most) with isEmpty := most == some 0 }

end Cost

/-- The cost of an expression, given the size of sets and of the marks of a captured group. -/
def Expr.cost (sizeOf : CharSet → Nat) (captureSize : Nat) : Expr → Cost
  | .empty => { Cost.ofSize stateSize with isEmpty := true }
  | .chars set => .ofSet sizeOf set
  | .look _ => .ofSize stateSize
  | .concat first second => (first.cost sizeOf captureSize).concat (second.cost sizeOf captureSize)
  | .choice left right =>
      .choice sizeOf (left.cost sizeOf captureSize) (right.cost sizeOf captureSize)
  | .repetition body least most _ =>
      (body.cost sizeOf captureSize).repetition body.isBlank body.mayBeBlank least most
  | .capture _ body => .ofSize ((body.cost sizeOf captureSize).size + captureSize)

/-- The size of the automaton for an expression.  Only forwards it marks what groups capture. -/
def Expr.size (direction : Direction) (expr : Expr) : Nat :=
  let captureSize := match direction with
    | .forward => 2 * stateSize
    | .backward => 0
  (expr.cost (CharSet.size direction) captureSize).size + captureSize + 2 * stateSize

/-! ## The limit -/

/-- More boundaries than a property or the case variants of a set have. -/
def greatestBoundaryCount : Nat := 4096

/-- More boundaries than a set has. -/
def CharSet.boundaryBound : CharSet → Nat
  | .empty => 0
  | .range _ _ => 2
  | .having _ => greatestBoundaryCount
  | .union left right | .intersection left right | .difference left right
  | .symmetricDifference left right => left.boundaryBound + right.boundaryBound
  | .complement set => set.boundaryBound + 1
  | .caseClosure set =>
      match set.onlyChar? with
      | some _ => 8
      | none => set.boundaryBound + greatestBoundaryCount

/-- A size that no set exceeds.  A boundary divides a range into few sequences, and each of these
takes at most four states. -/
def CharSet.sizeBound (set : CharSet) : Nat :=
  1024 * (set.boundaryBound + 4)

/-- How large an automaton may be. -/
def greatestSize : Nat := 10 * 1024 * 1024

/-- Whether no automaton for the expression is too large.  For most expressions a bound that is
quick to work out shows it. -/
def Expr.fits (expr : Expr) : Bool :=
  (expr.cost CharSet.sizeBound (2 * stateSize)).size + 4 * stateSize ≤ greatestSize ||
    (expr.size .forward ≤ greatestSize && expr.size .backward ≤ greatestSize)

end PhraseRules.Regex
