/-!
# Ranges of code points in UTF-8

The code points of a range are written with one to four bytes.  A range is divided into parts whose
members are exactly the sequences of bytes that take each byte from a range of its own.
-/

namespace PhraseRules.Unicode.Utf8

/-- A range of bytes. -/
abbrev ByteRange : Type :=
  Nat × Nat

/-- The first code point that needs more bytes, for each number of bytes but the greatest. -/
def lengthLimits : List Nat := [0x80, 0x800, 0x10000]

/-- The number of bytes of a code point. -/
def byteCount (point : Nat) : Nat :=
  1 + lengthLimits.countP (· ≤ point)

/-- The bytes of a code point. -/
def bytesOf (point : Nat) : List Nat :=
  match byteCount point with
  | 1 => [point]
  | 2 => [0xC0 + point / 64, 0x80 + point % 64]
  | 3 => [0xE0 + point / 4096, 0x80 + point / 64 % 64, 0x80 + point % 64]
  | _ =>
      [0xF0 + point / 262144, 0x80 + point / 4096 % 64, 0x80 + point / 64 % 64,
        0x80 + point % 64]

/-- Where a range must be divided so that all its members have the same number of bytes. -/
def lengthCut? (first last : Nat) : Option Nat :=
  lengthLimits.find? fun limit => first < limit && limit ≤ last

/--
Where a range must be divided so that its members differ in their last bytes only where these take
all values: before the next multiple of a power of 64, or behind the last one.
-/
def alignmentCut? (first last : Nat) : Option Nat :=
  if last < 0x80 then none
  else [64, 4096, 262144].findSome? fun unit =>
    if first / unit = last / unit then none
    else if first % unit ≠ 0 then some ((first / unit + 1) * unit)
    else if last % unit ≠ unit - 1 then some (last / unit * unit)
    else none

/-- The surrogates, which are no characters. -/
def surrogates : Nat × Nat := (0xD800, 0xDFFF)

/-- The sequences of byte ranges for a range of code points without surrogates; `fuel` bounds how
often it is divided. -/
def sequencesOf : (fuel : Nat) → (first last : Nat) → List (List ByteRange)
  | 0, _, _ => []
  | fuel + 1, first, last =>
      match (lengthCut? first last).or (alignmentCut? first last) with
      | some cut => sequencesOf fuel first (cut - 1) ++ sequencesOf fuel cut last
      | none => [(bytesOf first).zip (bytesOf last)]

/-- How often a range of code points is divided at most. -/
def greatestDivision : Nat := 32

/-- The sequences of byte ranges for a range of code points, in increasing order. -/
def sequences (range : Nat × Nat) : List (List ByteRange) :=
  let (first, last) := range
  let below := (first, min last (surrogates.1 - 1))
  let above := (max first (surrogates.2 + 1), last)
  let parts := if last < surrogates.1 ∨ surrogates.2 < first then [range] else [below, above]
  (parts.filter fun part => part.1 ≤ part.2).flatMap fun part =>
    sequencesOf greatestDivision part.1 part.2

end PhraseRules.Unicode.Utf8
