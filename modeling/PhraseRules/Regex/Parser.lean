import PhraseRules.Regex.Ast
import PhraseRules.Text.Number
import PhraseRules.Unicode.Alphabetic
import PhraseRules.Unicode.Numeric
import PhraseRules.Unicode.WhiteSpace

/-!
# Reading regular expressions

The text of a regular expression is read from left to right into a tree.  The only flag that matters
here is the one for the extended form, in which blanks and comments between the parts of an
expression are passed over; it lasts until the end of the group that sets it.
-/

namespace PhraseRules.Regex

open PhraseRules.Text
open PhraseRules.Unicode

/-! ## Blanks and comments -/

/-- The text behind blanks and comments, which run from a `#` to the end of the line. -/
def dropBlanks (inComment : Bool) : List Char → List Char
  | [] => []
  | c :: rest =>
      if inComment then dropBlanks (c != '\n') rest
      else if isWhiteSpace c then dropBlanks false rest
      else if c = '#' then dropBlanks true rest
      else c :: rest

/-- The text behind what the extended form passes over. -/
def skip (extended : Bool) (text : List Char) : List Char :=
  if extended then dropBlanks false text else text

/--
The characters up to the first one that is not wanted, without what the extended form passes over,
and the rest of the text.
-/
def readWhile (extended : Bool) (wanted : Char → Bool) (inComment : Bool) :
    List Char → List Char × List Char
  | [] => ([], [])
  | c :: rest =>
      if inComment then readWhile extended wanted (c != '\n') rest
      else if extended && isWhiteSpace c then readWhile extended wanted false rest
      else if extended && c == '#' then readWhile extended wanted true rest
      else if wanted c then
        let (taken, left) := readWhile extended wanted false rest
        (c :: taken, left)
      else ([], c :: rest)

/-! ## Numbers -/

/-- The greatest number that a repetition can count to. -/
def greatestCount : Nat := 4294967295

/-- A count, with the blanks around it. -/
def readCount (extended : Bool) (text : List Char) : Except Fault (Nat × List Char) :=
  let (digits, rest) := readWhile extended Char.isDigit false (text.dropWhile isWhiteSpace)
  let value := valueOfDigits 10 digits
  if digits.isEmpty || value > greatestCount then .error .badRepetitionCount
  else .ok (value, rest.dropWhile isWhiteSpace)

/-- Whether the character is a hexadecimal digit. -/
def isHexDigit (c : Char) : Bool :=
  c.isDigit || ('a' ≤ c && c ≤ 'f') || ('A' ≤ c && c ≤ 'F')

/-- The character with the code point that hexadecimal digits give. -/
def charOfHex (digits : List Char) : Except Fault Char :=
  let value := valueOfDigits 16 digits
  if !digits.isEmpty && digits.all isHexDigit && value.isValidChar then .ok (Char.ofNat value)
  else .error .badHexadecimal

/-- A given number of hexadecimal digits. -/
def readHexDigits (extended : Bool) : Nat → List Char → Except Fault (List Char × List Char)
  | 0, text => .ok ([], text)
  | count + 1, text =>
      match text with
      | [] => .error .unexpectedEnd
      | c :: rest =>
          if isHexDigit c then do
            let (digits, left) ← readHexDigits extended count (skip extended rest)
            .ok (c :: digits, left)
          else
            .error .badHexadecimal

/-- The character of a hexadecimal escape, whose letter is followed by `text`. -/
def readHex (extended : Bool) (letter : Char) (text : List Char) :
    Except Fault (Literal × List Char) :=
  match skip extended text with
  | '\x7b' :: rest => do
      let (digits, left) := readWhile extended (· != '\x7d') false rest
      match left with
      | [] => .error .unexpectedEnd
      | _ :: left => .ok (⟨← charOfHex digits, false⟩, skip extended left)
  | rest => do
      let count := if letter = 'x' then 2 else if letter = 'u' then 4 else 8
      let (digits, left) ← readHexDigits extended count rest
      .ok (⟨← charOfHex digits, letter = 'x'⟩, left)

/-! ## Escapes -/

/-- The characters that have a meaning of their own somewhere in an expression. -/
def metaCharacters : List Char :=
  ['\\', '.', '+', '*', '?', '(', ')', '|', '[', ']', '\x7b', '\x7d', '^', '$', '#', '&', '-', '~']

/-- Whether a backslash before the character makes it stand for itself. -/
def isEscapable (c : Char) : Bool :=
  metaCharacters.contains c ||
    (c.toNat < 128 && !c.isAlphanum && c != '<' && c != '>')

/-- The name and the value of a property, where a sign stands between them. -/
def splitQuery (name : List Char) : PropertyQuery :=
  match splitAtUnequal [] name with
  | some (name, value) => .valued (String.ofList name) (String.ofList value)
  | none =>
      match splitAtSign ':' name with
      | some (name, value) => .valued (String.ofList name) (String.ofList value)
      | none =>
          match splitAtSign '=' name with
          | some (name, value) => .valued (String.ofList name) (String.ofList value)
          | none => .named (String.ofList name)
where
  /-- The stretches before and behind the first occurrence of `!=`. -/
  splitAtUnequal (before : List Char) : List Char → Option (List Char × List Char)
    | '!' :: '=' :: after => some (before.reverse, after)
    | c :: after => splitAtUnequal (c :: before) after
    | [] => none
  /-- The stretches before and behind the first occurrence of a sign. -/
  splitAtSign (sign : Char) (text : List Char) : Option (List Char × List Char) :=
    match text.dropWhile (· != sign) with
    | [] => none
    | _ :: after => some (text.takeWhile (· != sign), after)

/-- The query of a property escape, whose letter is followed by `text`. -/
def readProperty (extended : Bool) (text : List Char) : Except Fault (PropertyQuery × List Char) :=
  match skip extended text with
  | [] => .error .unexpectedEnd
  | '\x7b' :: rest =>
      let (name, left) := readWhile extended (· != '\x7d') false rest
      match left with
      | [] => .error .unexpectedEnd
      | _ :: left => .ok (splitQuery name, left)
  | '\\' :: _ => .error .unknownProperty
  | c :: rest => .ok (.letter c, skip extended rest)

/-- Whether the character can stand in the name of a special boundary of words. -/
def isBoundaryNameChar (c : Char) : Bool :=
  c.isAlpha || c == '-'

/--
The assertion of `\b`, followed by `text`.  A name in braces asks for a special boundary; anything
else in braces is left to be read as a repetition.
-/
def readBoundary (extended : Bool) (text : List Char) : Except Fault (Assertion × List Char) :=
  match text with
  | '\x7b' :: rest =>
      match skip extended rest with
      | [] => .error .unexpectedEnd
      | c :: inner =>
          if isBoundaryNameChar c then
            let (name, left) := readWhile extended isBoundaryNameChar false (c :: inner)
            match left with
            | '\x7d' :: left =>
                match String.ofList name with
                | "start" => .ok (.wordStart, left)
                | "end" => .ok (.wordEnd, left)
                | "start-half" => .ok (.wordStartHalf, left)
                | "end-half" => .ok (.wordEndHalf, left)
                | _ => .error .unknownEscape
            | _ => .error .unexpectedEnd
          else
            .ok (.wordBoundary, text)
  | _ => .ok (.wordBoundary, text)

/-- The part of an expression that a backslash followed by `text` makes. -/
def readEscape (extended : Bool) (text : List Char) : Except Fault (Ast × List Char) :=
  match text with
  | [] => .error .unexpectedEnd
  | c :: rest =>
      if c.isDigit then .error .unsupportedBackReference
      else if c = 'x' ∨ c = 'u' ∨ c = 'U' then do
        let (literal, left) ← readHex extended c rest
        .ok (.literal literal, left)
      else if c = 'p' ∨ c = 'P' then do
        let (query, left) ← readProperty extended rest
        .ok (.property (c = 'P') query, left)
      else if isEscapable c then .ok (.literal ⟨c, false⟩, rest)
      else match c with
        | 'd' => .ok (.perl false .digit, rest)
        | 'D' => .ok (.perl true .digit, rest)
        | 's' => .ok (.perl false .space, rest)
        | 'S' => .ok (.perl true .space, rest)
        | 'w' => .ok (.perl false .word, rest)
        | 'W' => .ok (.perl true .word, rest)
        | 'a' => .ok (.literal ⟨'\x07', false⟩, rest)
        | 'f' => .ok (.literal ⟨'\x0c', false⟩, rest)
        | 't' => .ok (.literal ⟨'\t', false⟩, rest)
        | 'n' => .ok (.literal ⟨'\n', false⟩, rest)
        | 'r' => .ok (.literal ⟨'\r', false⟩, rest)
        | 'v' => .ok (.literal ⟨'\x0b', false⟩, rest)
        | 'A' => .ok (.assertion .textStart, rest)
        | 'z' => .ok (.assertion .textEnd, rest)
        | 'B' => .ok (.assertion .notWordBoundary, rest)
        | '<' => .ok (.assertion .wordStart, rest)
        | '>' => .ok (.assertion .wordEnd, rest)
        | 'b' => do
            let (assertion, left) ← readBoundary extended rest
            .ok (.assertion assertion, left)
        | _ => .error .unknownEscape

/-! ## Classes -/

/-- The class with the given name. -/
def AsciiClass.ofName? (name : String) : Option AsciiClass :=
  [("alnum", AsciiClass.alnum), ("alpha", .alpha), ("ascii", .ascii), ("blank", .blank),
    ("cntrl", .cntrl), ("digit", .digit), ("graph", .graph), ("lower", .lower),
    ("print", .print), ("punct", .punct), ("space", .space), ("upper", .upper),
    ("word", .word), ("xdigit", .xdigit)].lookup name

/-- The named class that an opening bracket followed by `text` makes, if it makes one. -/
def readNamedClass? (text : List Char) : Option (ClassAst × List Char) :=
  match text with
  | ':' :: '^' :: rest => named true rest
  | ':' :: rest => named false rest
  | _ => none
where
  /-- The class whose name begins the text. -/
  named (negated : Bool) (rest : List Char) : Option (ClassAst × List Char) :=
    match rest.dropWhile (· != ':') with
    | ':' :: ']' :: left => do
        let kind ← AsciiClass.ofName? (String.ofList (rest.takeWhile (· != ':')))
        some (.ascii negated kind, left)
    | _ => none

/-- The hyphens that begin a class stand for themselves. -/
def readHyphens (extended : Bool) (text : List Char) : List ClassAst × List Char :=
  let (hyphens, rest) := readWhile extended (· == '-') false text
  (hyphens.map fun c => .literal ⟨c, false⟩, rest)

/--
What stands at the beginning of a class, behind its opening bracket: whether it is negated, and the
characters that stand for themselves there.  A closing bracket that comes first is one of them.
-/
def readClassOpening (extended : Bool) (text : List Char) :
    Except Fault (Bool × List ClassAst × List Char) := do
  let (negated, text) := match skip extended text with
    | '^' :: rest => (true, skip extended rest)
    | rest => (false, rest)
  let (hyphens, rest) := readHyphens extended text
  match hyphens, rest with
  | _, [] => .error .unclosedClass
  | [], ']' :: rest =>
      match skip extended rest with
      | [] => .error .unclosedClass
      | rest => .ok (negated, [.literal ⟨']', false⟩], rest)
  | hyphens, rest => .ok (negated, hyphens, rest)

/-- One side of a range or an item of its own: an escape or a plain character. -/
def readClassAtom (extended : Bool) (text : List Char) : Except Fault (Ast × List Char) :=
  match text with
  | [] => .error .unclosedClass
  | '\\' :: rest => readEscape extended rest
  | c :: rest => .ok (.literal ⟨c, false⟩, rest)

/-- The item of a class that an escape or a character makes. -/
def classItem : Ast → Except Fault ClassAst
  | .literal literal => .ok (.literal literal)
  | .perl negated kind => .ok (.perl negated kind)
  | .property negated query => .ok (.property negated query)
  | _ => .error .badClassItem

/-- The end of a range that an escape or a character makes. -/
def rangeEnd : Ast → Except Fault Literal
  | .literal literal => .ok literal
  | _ => .error .badClassRange

/-- A character, an escape or a range in a class. -/
def readClassItem (extended : Bool) (text : List Char) : Except Fault (ClassAst × List Char) := do
  let (first, rest) ← readClassAtom extended text
  let rest := skip extended rest
  match rest with
  | [] => .error .unclosedClass
  | '-' :: after =>
      match skip extended after with
      | [] => .error .unclosedClass
      | ']' :: _ | '-' :: _ => .ok (← classItem first, rest)
      | after => do
          let (last, left) ← readClassAtom extended after
          let first ← rangeEnd first
          let last ← rangeEnd last
          if first.char ≤ last.char then .ok (.range first last, left)
          else .error .badClassRange
  | _ => .ok (← classItem first, rest)

/-- Joins what stands on the right of an operation with what stands on its left. -/
def closeOperation (pending : Option (ClassOperation × ClassAst)) (right : ClassAst) : ClassAst :=
  match pending with
  | some (operation, left) => .operation operation left right
  | none => right

/--
The body of a class, up to its closing bracket.  `pending` is the operation whose right side is
being read, `items` that side so far, last item first.
-/
def readClassBody (extended : Bool) : (fuel : Nat) →
    (pending : Option (ClassOperation × ClassAst)) → (items : List ClassAst) → List Char →
    Except Fault (ClassAst × List Char)
  | 0, _, _, _ => .error .unclosedClass
  | fuel + 1, pending, items, text =>
      let side := closeOperation pending (.ofItems items.reverse)
      match skip extended text with
      | [] => .error .unclosedClass
      | ']' :: rest => .ok (side, rest)
      | '&' :: '&' :: rest => readClassBody extended fuel (some (.intersection, side)) [] rest
      | '-' :: '-' :: rest => readClassBody extended fuel (some (.difference, side)) [] rest
      | '~' :: '~' :: rest =>
          readClassBody extended fuel (some (.symmetricDifference, side)) [] rest
      | '[' :: rest =>
          match readNamedClass? rest with
          | some (item, left) => readClassBody extended fuel pending (item :: items) left
          | none => do
              let (negated, opening, inner) ← readClassOpening extended rest
              let (body, left) ← readClassBody extended fuel none opening.reverse inner
              readClassBody extended fuel pending (.bracketed negated body :: items) left
      | text => do
          let (item, left) ← readClassItem extended text
          readClassBody extended fuel pending (item :: items) left

/-- The class that an opening bracket followed by `text` makes. -/
def readClass (extended : Bool) (text : List Char) : Except Fault (Ast × List Char) := do
  let (negated, opening, inner) ← readClassOpening extended text
  let (body, left) ← readClassBody extended (text.length + 1) none opening.reverse inner
  .ok (.bracketed negated body, left)

/-! ## Groups -/

/-- The flag with the given letter. -/
def Flag.ofLetter? (letter : Char) : Option Flag :=
  [('i', Flag.caseInsensitive), ('m', .multiLine), ('s', .dotMatchesNewline), ('U', .swapGreed),
    ('u', .unicode), ('R', .crlf), ('x', .extended)].lookup letter

/--
The flags of a group, and the text from the sign that ends them.  `dangling` says that a hyphen came
just before.
-/
def readFlags (negated dangling : Bool) (settings : List FlagSetting) :
    List Char → Except Fault (List FlagSetting × List Char)
  | [] => .error .badFlags
  | c :: rest =>
      if c = ':' ∨ c = ')' then
        if dangling then .error .badFlags else .ok (settings.reverse, c :: rest)
      else if c = '-' then
        if negated then .error .badFlags else readFlags true true settings rest
      else
        match Flag.ofLetter? c with
        | none => .error .badFlags
        | some flag =>
            if settings.any (·.flag == flag) then .error .badFlags
            else readFlags negated false (⟨flag, !negated⟩ :: settings) rest

/-- Whether the character can begin the name of a group. -/
def isNameStart (c : Char) : Bool :=
  c == '_' || isAlphabetic c

/-- Whether the character can go on the name of a group. -/
def isNameChar (c : Char) : Bool :=
  c == '_' || c == '.' || c == '[' || c == ']' || isAlphabetic c || isNumeric c

/-- The name of a group, up to the sign that ends it. -/
def readName (text : List Char) : Except Fault (String × List Char) :=
  let name := text.takeWhile (· != '>')
  match name, text.dropWhile (· != '>') with
  | initial :: later, _ :: rest =>
      if isNameStart initial && later.all isNameChar then .ok (String.ofList name, rest)
      else .error .badGroupName
  | _, _ => .error .badGroupName

/-- What an opening parenthesis begins. -/
inductive Opening where
  /-- Flags for the rest of the group around it. -/
  | settings (settings : List FlagSetting) (rest : List Char)
  /-- A group of its own. -/
  | group (kind : GroupKind) (rest : List Char)

/-- What an opening parenthesis followed by `text` begins. -/
def readOpening (extended : Bool) (text : List Char) : Except Fault Opening :=
  match skip extended text with
  | '?' :: '=' :: _ | '?' :: '!' :: _ | '?' :: '<' :: '=' :: _ | '?' :: '<' :: '!' :: _ =>
      .error .unsupportedLookAround
  | '?' :: 'P' :: '<' :: rest | '?' :: '<' :: rest => do
      let (name, left) ← readName rest
      .ok (.group (.named name) left)
  | '?' :: rest => do
      let (settings, left) ← readFlags false false [] rest
      match left with
      | ':' :: left => .ok (.group (.uncaptured settings) left)
      | left =>
          if settings.isEmpty then .error .nothingToRepeat
          else .ok (.settings settings (left.drop 1))
  | rest => .ok (.group .numbered rest)

/-- Whether the extended form is in force behind flag settings. -/
def extendedAfter (extended : Bool) (settings : List FlagSetting) : Bool :=
  ((settings.find? (·.flag == .extended)).map (·.value)).getD extended

/-- Whether the extended form is in force inside a group. -/
def extendedInside (extended : Bool) : GroupKind → Bool
  | .uncaptured settings => extendedAfter extended settings
  | .numbered | .named _ => extended

/-! ## Repetitions -/

/-- The bounds of a repetition. -/
structure Bounds where
  least : Nat
  most : Option Nat

/-- Whether a repetition is greedy, by the sign that may follow it, and the text behind that. -/
def readGreed : List Char → Bool × List Char
  | '?' :: rest => (false, rest)
  | rest => (true, rest)

/-- The bounds in braces, whose opening brace is followed by `text`. -/
def readBounds (extended : Bool) (text : List Char) : Except Fault (Bounds × List Char) :=
  match skip extended text with
  | [] => .error .badRepetitionCount
  | text => do
      let (least, rest) ← readCount extended text
      match rest with
      | '\x7d' :: left => .ok (⟨least, some least⟩, left)
      | ',' :: rest =>
          match skip extended rest with
          | '\x7d' :: left => .ok (⟨least, none⟩, left)
          | [] => .error .badRepetitionCount
          | rest => do
              let (most, left) ← readCount extended rest
              match left with
              | '\x7d' :: left =>
                  if least ≤ most then .ok (⟨least, some most⟩, left)
                  else .error .badRepetitionCount
              | _ => .error .badRepetitionCount
      | _ => .error .badRepetitionCount

/-- Repeats the last of the items, which come last item first. -/
def repeatLast (bounds : Bounds) (greedy : Bool) : List Ast → Except Fault (List Ast)
  | [] | .empty :: _ | .flags _ :: _ => .error .nothingToRepeat
  | last :: earlier => .ok (.repetition last bounds.least bounds.most greedy :: earlier)

/-! ## Expressions -/

/-- A part of an expression that is neither group, class nor repetition. -/
def readAtom (extended : Bool) (text : List Char) : Except Fault (Ast × List Char) :=
  match text with
  | [] => .error .unexpectedEnd
  | '\\' :: rest => readEscape extended rest
  | '.' :: rest => .ok (.dot, rest)
  | '^' :: rest => .ok (.assertion .lineStart, rest)
  | '$' :: rest => .ok (.assertion .lineEnd, rest)
  | c :: rest => .ok (.literal ⟨c, false⟩, rest)

/-- The expression of branches and of the items of the branch being read, each last one first. -/
def closeBranches (branches items : List Ast) : Ast :=
  .ofBranches ((Ast.ofItems items.reverse :: branches).reverse)

/--
The inside of a group, up to its closing parenthesis or the end of the text.  `branches` are the
branches that are complete, `items` the one being read, each last one first.
-/
def readInside : (fuel : Nat) → (extended : Bool) → (branches items : List Ast) → List Char →
    Except Fault (Ast × List Char)
  | 0, _, _, _, _ => .error .unexpectedEnd
  | fuel + 1, extended, branches, items, text =>
      match skip extended text with
      | [] => .ok (closeBranches branches items, [])
      | ')' :: rest => .ok (closeBranches branches items, ')' :: rest)
      | '|' :: rest => readInside fuel extended (.ofItems items.reverse :: branches) [] rest
      | '(' :: rest => do
          match ← readOpening extended rest with
          | .settings settings left =>
              readInside fuel (extendedAfter extended settings) branches
                (.flags settings :: items) left
          | .group kind left =>
              let (body, left) ← readInside fuel (extendedInside extended kind) [] [] left
              match left with
              | ')' :: left => readInside fuel extended branches (.group kind body :: items) left
              | _ => .error .unclosedGroup
      | '[' :: rest => do
          let (item, left) ← readClass extended rest
          readInside fuel extended branches (item :: items) left
      | '?' :: rest => do
          let (greedy, left) := readGreed rest
          readInside fuel extended branches (← repeatLast ⟨0, some 1⟩ greedy items) left
      | '*' :: rest => do
          let (greedy, left) := readGreed rest
          readInside fuel extended branches (← repeatLast ⟨0, none⟩ greedy items) left
      | '+' :: rest => do
          let (greedy, left) := readGreed rest
          readInside fuel extended branches (← repeatLast ⟨1, none⟩ greedy items) left
      | '\x7b' :: rest => do
          let (bounds, left) ← readBounds extended rest
          let (greedy, left) := readGreed (skip extended left)
          readInside fuel extended branches (← repeatLast bounds greedy items) left
      | text => do
          let (item, left) ← readAtom extended text
          readInside fuel extended branches (item :: items) left

/-- How deeply an expression may be nested. -/
def greatestDepth : Nat := 250

/-- Whether no element occurs twice. -/
def allDistinct : List String → Bool
  | [] => true
  | name :: later => !later.contains name && allDistinct later

/-- The expression that a text writes. -/
def Ast.parse (text : List Char) : Except Fault Ast := do
  let (ast, left) ← readInside (text.length + 1) false [] [] text
  if !left.isEmpty then .error .unopenedGroup
  else if !allDistinct ast.groupNames then .error .repeatedGroupName
  else if ast.depth > greatestDepth then .error .nestedTooDeeply
  else .ok ast

end PhraseRules.Regex
