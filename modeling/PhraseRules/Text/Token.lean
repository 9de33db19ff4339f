import PhraseRules.Unicode.Alphabetic
import PhraseRules.Unicode.Numeric
import PhraseRules.Unicode.WhiteSpace

/-!
# Tokens

A text is cut into tokens: words, numbers, white space, punctuation marks and single characters of
no known kind.  The first character of a token decides its kind, the kind decides how far it goes,
and nothing is lost: the tokens put together are the text.
-/

namespace PhraseRules.Text

open PhraseRules.Unicode

/-- The kinds of tokens. -/
inductive TokenKind where
  | word
  | punctuation
  | whitespace
  | number
  | unknown
deriving DecidableEq, Repr

/-- A stretch of a text; `start` and `stop` count characters. -/
structure Token where
  text : String
  kind : TokenKind
  start : Nat
  stop : Nat
deriving DecidableEq, Repr

/-- The characters that are punctuation marks. -/
def punctuationMarks : List Char :=
  ['.', ',', ';', ':', '!', '?', '¡', '¿', '"', '\x27', '(', ')', '[', ']', '\x7b', '\x7d', '-',
    '—', '–', '«', '»', '…']

/-- The kind of a token that begins with the character. -/
def TokenKind.ofInitial (c : Char) : TokenKind :=
  if isAlphabetic c then .word
  else if isNumeric c then .number
  else if isWhiteSpace c then .whitespace
  else if punctuationMarks.contains c then .punctuation
  else .unknown

/-- Whether a token that begins with `initial` goes on through the character. -/
def continues (initial c : Char) : Bool :=
  match TokenKind.ofInitial initial with
  | .word => isAlphabetic c || c == '\x27' || c == '-'
  | .number => isNumeric c || c == '.' || c == ','
  | .whitespace => isWhiteSpace c
  | .punctuation => initial == '.' && c == '.'
  | .unknown => false

/-- Whether the character separates the digits of a number. -/
def isDigitSeparator (c : Char) : Bool :=
  c == '.' || c == ','

/-- The token made of the given characters. -/
def Token.ofChars (chars : List Char) (kind : TokenKind) (start : Nat) : Token :=
  ⟨String.ofList chars, kind, start, start + chars.length⟩

/--
The tokens of one maximal stretch.  A number that ends with a separator gives that separator up as a
punctuation mark of its own.
-/
def tokensOfStretch (kind : TokenKind) (chars : List Char) (start : Nat) : List Token :=
  match kind, chars.getLast? with
  | .number, some final =>
      if isDigitSeparator final then
        let number := chars.dropLast
        [.ofChars number .number start,
          .ofChars [final] .punctuation (start + number.length)]
      else
        [.ofChars chars .number start]
  | _, _ => [.ofChars chars kind start]

/-- The tokens of characters that stand `start` characters into a text. -/
def tokensFrom (start : Nat) (chars : List Char) : List Token :=
  match chars with
  | [] => []
  | initial :: rest =>
      let stretch := initial :: rest.takeWhile (continues initial)
      tokensOfStretch (.ofInitial initial) stretch start ++
        tokensFrom (start + stretch.length) (rest.dropWhile (continues initial))
termination_by chars.length
decreasing_by
  exact Nat.lt_succ_of_le (List.dropWhile_sublist (continues initial)).length_le

/-- The tokens of a text. -/
def tokenize (text : String) : List Token :=
  tokensFrom 0 text.toList

/-- The text that tokens make up. -/
def textOfTokens (tokens : List Token) : String :=
  String.join (tokens.map (·.text))

namespace Token

/-- Whether the token is a word. -/
def isWord (token : Token) : Bool :=
  token.kind == .word

/-- Whether the token is white space. -/
def isBlank (token : Token) : Bool :=
  token.kind == .whitespace

/-- The marks that end a sentence. -/
def finalMarks : List String := [".", "!", "?", "…", "..."]

/-- Whether the token is a mark that ends a sentence. -/
def isSentenceFinal (token : Token) : Bool :=
  token.kind == .punctuation && finalMarks.contains token.text

/-- Whether the token is white space with at least two line feeds. -/
def isParagraphBreak (token : Token) : Bool :=
  token.isBlank && token.text.toList.count '\n' ≥ 2

end Token

end PhraseRules.Text
