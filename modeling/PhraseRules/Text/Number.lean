/-!
# Numbers in texts

The value of written digits, and the numbers that fit a word of 64 bits.
-/

namespace PhraseRules.Text

/-- The value of a digit, whatever its case. -/
def digitValue (c : Char) : Nat :=
  if c.isDigit then c.toNat - '0'.toNat
  else if 'a' ≤ c ∧ c ≤ 'f' then c.toNat - 'a'.toNat + 10
  else c.toNat - 'A'.toNat + 10

/-- The value of digits in a base. -/
def valueOfDigits (base : Nat) (digits : List Char) : Nat :=
  digits.foldl (fun value c => value * base + digitValue c) 0

/-- The number that ASCII digits write, if there are any and it fits a word of 64 bits. -/
def wordOfDigits? (digits : List Char) : Option Nat :=
  let value := valueOfDigits 10 digits
  if !digits.isEmpty && digits.all Char.isDigit && value < UInt64.size then some value else none

end PhraseRules.Text
