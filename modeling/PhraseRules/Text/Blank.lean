import PhraseRules.Unicode.WhiteSpace

/-!
# Trimming and dividing texts

White space around a text, the lines of a text, and the fields of a line.
-/

namespace PhraseRules.Text

open PhraseRules.Unicode

/-- The characters without white space at either end. -/
def trimChars (chars : List Char) : List Char :=
  ((chars.dropWhile isWhiteSpace).reverse.dropWhile isWhiteSpace).reverse

/-- The text without white space at either end. -/
def trim (text : String) : String :=
  String.ofList (trimChars text.toList)

/-- The stretches between the occurrences of a separator; there is always at least one. -/
def splitAtChar (separator : Char) : List Char → List (List Char)
  | [] => [[]]
  | c :: rest =>
      if c = separator then [] :: splitAtChar separator rest
      else match splitAtChar separator rest with
        | [] => [[c]]
        | stretch :: later => (c :: stretch) :: later

/-- The line without the carriage return that may precede its end. -/
def dropCarriageReturn (line : List Char) : List Char :=
  match line.reverse with
  | '\r' :: before => before.reverse
  | _ => line

/--
The lines of a text.  A line ends with a line feed, or with a carriage return and a line feed; the
last line may do without, and a carriage return that no line feed follows belongs to it.
-/
def linesOf (chars : List Char) : List (List Char) :=
  match (splitAtChar '\n' chars).reverse with
  | [] => []
  | final :: ended =>
      ended.reverse.map dropCarriageReturn ++ (if final.isEmpty then [] else [final])

end PhraseRules.Text
