import PhraseRules.Regex.Basic
import PhraseRules.Regex.Property

/-!
# What written expressions mean

The flags in force decide what the parts of a written expression ask for.  They are carried along
from left to right, through the branches of a group, and what a group changes ends with it.  Groups
are numbered in the order in which they open.
-/

namespace PhraseRules.Regex

/-- The flags in force at a place of an expression. -/
structure Flags where
  caseInsensitive : Bool
  multiLine : Bool
  dotMatchesNewline : Bool
  swapGreed : Bool
  unicode : Bool
  crlf : Bool
deriving DecidableEq, Repr

/-- The flags at the beginning of an expression. -/
def Flags.initial : Flags :=
  ⟨false, false, false, false, true, false⟩

/-- The flags after one of them is set. -/
def Flags.set (flags : Flags) (setting : FlagSetting) : Flags :=
  match setting.flag with
  | .caseInsensitive => { flags with caseInsensitive := setting.value }
  | .multiLine => { flags with multiLine := setting.value }
  | .dotMatchesNewline => { flags with dotMatchesNewline := setting.value }
  | .swapGreed => { flags with swapGreed := setting.value }
  | .unicode => { flags with unicode := setting.value }
  | .crlf => { flags with crlf := setting.value }
  | .extended => flags

/-- The flags after several of them are set. -/
def Flags.setAll (flags : Flags) (settings : List FlagSetting) : Flags :=
  settings.foldl set flags

/-- Which characters assertions take for parts of words. -/
def Flags.alphabet (flags : Flags) : Alphabet :=
  if flags.unicode then .unicode else .ascii

/-! ## Sets -/

/-- The ranges of a class of ASCII characters. -/
def AsciiClass.ranges : AsciiClass → List (Char × Char)
  | .alnum => [('0', '9'), ('A', 'Z'), ('a', 'z')]
  | .alpha => [('A', 'Z'), ('a', 'z')]
  | .ascii => [('\x00', '\x7f')]
  | .blank => [('\t', '\t'), (' ', ' ')]
  | .cntrl => [('\x00', '\x1f'), ('\x7f', '\x7f')]
  | .digit => [('0', '9')]
  | .graph => [('!', '~')]
  | .lower => [('a', 'z')]
  | .print => [(' ', '~')]
  | .punct => [('!', '/'), (':', '@'), ('[', '\x60'), ('\x7b', '~')]
  | .space => [('\t', '\r'), (' ', ' ')]
  | .upper => [('A', 'Z')]
  | .word => [('0', '9'), ('A', 'Z'), ('_', '_'), ('a', 'z')]
  | .xdigit => [('0', '9'), ('A', 'F'), ('a', 'f')]

/-- The set of a class such as `\d`. -/
def PerlClass.set (flags : Flags) (kind : PerlClass) : CharSet :=
  if flags.unicode then
    match kind with
    | .digit => .having (.categories [.decimalNumber])
    | .space => .having .whiteSpace
    | .word => .having .word
  else
    match kind with
    | .digit => .ofRanges AsciiClass.digit.ranges
    | .space => .ofRanges AsciiClass.space.ranges
    | .word => .ofRanges AsciiClass.word.ranges

/--
The set, or its complement if it is negated.  Without Unicode a complement would take in parts of
characters, and is refused.
-/
def negateIf (flags : Flags) (negated : Bool) (set : CharSet) : Except Fault CharSet :=
  if !negated then .ok set
  else if flags.unicode then .ok (.complement set)
  else .error .matchesPartsOfCharacters

/--
The set with all case variants of its members if case does not count.  Without Unicode only ASCII
characters are variants.
-/
def foldIf (flags : Flags) (set : CharSet) : CharSet :=
  if !flags.caseInsensitive then set
  else if flags.unicode then .caseClosure set
  else .intersection (.caseClosure set) (.having .ascii)

/-- The character that a literal stands for in a class. -/
def Literal.classChar (flags : Flags) (literal : Literal) : Except Fault Char :=
  if flags.unicode || literal.char.toNat < 128 then .ok literal.char
  else if literal.asByte then .error .matchesPartsOfCharacters
  else .error .needsUnicode

/-- The set of a property, or of the characters that do not have it. -/
def propertySet (flags : Flags) (negated : Bool) (query : PropertyQuery) : Except Fault CharSet :=
  if !flags.unicode then .error .needsUnicode
  else match query.resolve with
    | none => .error .unknownProperty
    | some set => negateIf flags negated (foldIf flags set)

mutual

/-- The set of what stands in a class; negations and operations inside it see case variants, the
items themselves do not yet. -/
def ClassAst.set (flags : Flags) : ClassAst → Except Fault CharSet
  | .empty => .ok .empty
  | .literal literal => do .ok (.single (← literal.classChar flags))
  | .range first last => do
      .ok (.range (← first.classChar flags) (← last.classChar flags))
  | .ascii negated kind => negateIf flags negated (foldIf flags (.ofRanges kind.ranges))
  | .perl negated kind => negateIf flags negated (kind.set flags)
  | .property negated query => propertySet flags negated query
  | .bracketed negated body => do
      negateIf flags negated (foldIf flags (← body.set flags))
  | .union items => setOfAll flags items
  | .operation operation left right => do
      let left := foldIf flags (← left.set flags)
      let right := foldIf flags (← right.set flags)
      match operation with
      | .intersection => .ok (.intersection left right)
      | .difference => .ok (.difference left right)
      | .symmetricDifference => .ok (.symmetricDifference left right)

/-- The union of the sets of the items. -/
def setOfAll (flags : Flags) : List ClassAst → Except Fault CharSet
  | [] => .ok .empty
  | item :: later => do .ok (.union (← item.set flags) (← setOfAll flags later))

end

/-! ## Expressions -/

/-- The expression of a literal. -/
def Literal.expr (flags : Flags) (literal : Literal) : Except Fault Expr :=
  if !flags.unicode && literal.asByte && literal.char.toNat ≥ 128 then
    .error .matchesPartsOfCharacters
  else if !flags.unicode && literal.char.toNat ≥ 128 then
    .ok (.chars (.single literal.char))
  else
    .ok (.chars (foldIf flags (.single literal.char)))

/-- The characters that a dot stands for. -/
def dotSet (flags : Flags) : CharSet :=
  let newlines : CharSet :=
    if flags.crlf then .union (.single '\n') (.single '\r') else .single '\n'
  if flags.dotMatchesNewline then .having .any else .complement newlines

/-- What an assertion asks for. -/
def Assertion.look (flags : Flags) : Assertion → Look
  | .lineStart =>
      if !flags.multiLine then .textStart
      else if flags.crlf then .lineStartCrlf
      else .lineStart
  | .lineEnd =>
      if !flags.multiLine then .textEnd
      else if flags.crlf then .lineEndCrlf
      else .lineEnd
  | .textStart => .textStart
  | .textEnd => .textEnd
  | .wordBoundary => .wordBoundary flags.alphabet
  | .notWordBoundary => .notWordBoundary flags.alphabet
  | .wordStart => .wordStart flags.alphabet
  | .wordEnd => .wordEnd flags.alphabet
  | .wordStartHalf => .wordStartHalf flags.alphabet
  | .wordEndHalf => .wordEndHalf flags.alphabet

/-- What is carried along an expression. -/
structure Context where
  flags : Flags
  /-- The number of captured groups that have opened. -/
  groups : Nat
  /-- The names of captured groups, with their numbers. -/
  names : List (String × Nat)

/-- The context behind a group, which keeps what it counted and not the flags it set. -/
def Context.leave (outer inner : Context) : Context :=
  { inner with flags := outer.flags }

/-- The context after one more captured group opens. -/
def Context.openGroup (context : Context) : Context :=
  { context with groups := context.groups + 1 }

mutual

/-- What an expression asks for, and what is carried to the place behind it. -/
def Ast.expr (context : Context) : Ast → Except Fault (Expr × Context)
  | .empty => .ok (.empty, context)
  | .flags settings => .ok (.empty, { context with flags := context.flags.setAll settings })
  | .literal literal => do .ok (← literal.expr context.flags, context)
  | .dot =>
      if context.flags.unicode then .ok (.chars (dotSet context.flags), context)
      else .error .matchesPartsOfCharacters
  | .assertion assertion => .ok (.look (assertion.look context.flags), context)
  | .perl negated kind => do
      .ok (.chars (← negateIf context.flags negated (kind.set context.flags)), context)
  | .property negated query => do
      .ok (.chars (← propertySet context.flags negated query), context)
  | .bracketed negated body => do
      let set ← body.set context.flags
      .ok (.chars (← negateIf context.flags negated (foldIf context.flags set)), context)
  | .repetition body least most greedy => do
      let (expr, context) ← body.expr context
      .ok (.repetition expr least most (greedy != context.flags.swapGreed), context)
  | .group .numbered body => do
      let opened := context.openGroup
      let (expr, inner) ← body.expr opened
      .ok (.capture opened.groups expr, context.leave inner)
  | .group (.named name) body => do
      let opened := context.openGroup
      let (expr, inner) ←
        body.expr { opened with names := (name, opened.groups) :: opened.names }
      .ok (.capture opened.groups expr, context.leave inner)
  | .group (.uncaptured settings) body => do
      let (expr, inner) ←
        body.expr { context with flags := context.flags.setAll settings }
      .ok (expr, context.leave inner)
  | .concat items => do
      let (exprs, context) ← exprsOf context items
      .ok (.sequence exprs, context)
  | .alternation branches => do
      let (exprs, context) ← exprsOf context branches
      .ok (.firstOf exprs, context)

/-- What the expressions ask for, each in the context that the one before leaves. -/
def exprsOf (context : Context) : List Ast → Except Fault (List Expr × Context)
  | [] => .ok ([], context)
  | item :: later => do
      let (expr, context) ← item.expr context
      let (exprs, context) ← exprsOf context later
      .ok (expr :: exprs, context)

end

end PhraseRules.Regex
