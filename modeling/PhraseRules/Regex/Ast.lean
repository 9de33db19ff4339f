/-!
# Regular expressions as written

The tree of a regular expression as its text gives it, before flags are resolved: which parts are
groups, repetitions, classes and escapes.  What the parts mean depends on the flags around them and
is decided in a second step.
-/

namespace PhraseRules.Regex

/-- The flags that an expression can set for the rest of a group. -/
inductive Flag where
  | caseInsensitive
  | multiLine
  | dotMatchesNewline
  | swapGreed
  | unicode
  | crlf
  | extended
deriving DecidableEq, Repr

/-- A flag that is switched on or off. -/
structure FlagSetting where
  flag : Flag
  value : Bool
deriving DecidableEq, Repr

/-- A character as written; `asByte` marks the form `\xHH`. -/
structure Literal where
  char : Char
  asByte : Bool
deriving DecidableEq, Repr

/-- The assertions that hold of a place and not of a character. -/
inductive Assertion where
  | lineStart
  | lineEnd
  | textStart
  | textEnd
  | wordBoundary
  | notWordBoundary
  | wordStart
  | wordEnd
  | wordStartHalf
  | wordEndHalf
deriving DecidableEq, Repr

/-- The classes `\d`, `\s` and `\w`. -/
inductive PerlClass where
  | digit
  | space
  | word
deriving DecidableEq, Repr

/-- The classes with a name in brackets and colons. -/
inductive AsciiClass where
  | alnum
  | alpha
  | ascii
  | blank
  | cntrl
  | digit
  | graph
  | lower
  | print
  | punct
  | space
  | upper
  | word
  | xdigit
deriving DecidableEq, Repr

/-- A property of characters as it is asked for. -/
inductive PropertyQuery where
  | letter (name : Char)
  | named (name : String)
  | valued (name value : String)
deriving DecidableEq, Repr

/-- The operations between the two sides of a class. -/
inductive ClassOperation where
  | intersection
  | difference
  | symmetricDifference
deriving DecidableEq, Repr

/-- What stands in a bracketed class. -/
inductive ClassAst where
  | empty
  | literal (literal : Literal)
  | range (first last : Literal)
  | ascii (negated : Bool) (kind : AsciiClass)
  | perl (negated : Bool) (kind : PerlClass)
  | property (negated : Bool) (query : PropertyQuery)
  | bracketed (negated : Bool) (body : ClassAst)
  | union (items : List ClassAst)
  | operation (operation : ClassOperation) (left right : ClassAst)
deriving Repr, Inhabited

/-- The kinds of groups that enclose an expression. -/
inductive GroupKind where
  | numbered
  | named (name : String)
  | uncaptured (settings : List FlagSetting)
deriving DecidableEq, Repr

/-- A regular expression as written. -/
inductive Ast where
  | empty
  | flags (settings : List FlagSetting)
  | literal (literal : Literal)
  | dot
  | assertion (assertion : Assertion)
  | perl (negated : Bool) (kind : PerlClass)
  | property (negated : Bool) (query : PropertyQuery)
  | bracketed (negated : Bool) (body : ClassAst)
  | repetition (body : Ast) (least : Nat) (most : Option Nat) (greedy : Bool)
  | group (kind : GroupKind) (body : Ast)
  | concat (items : List Ast)
  | alternation (branches : List Ast)
deriving Repr, Inhabited

namespace ClassAst

/-- Items side by side: nothing and single items stand for themselves. -/
def ofItems : List ClassAst → ClassAst
  | [] => .empty
  | [item] => item
  | items => .union items

mutual

/-- How deeply classes are nested; only what has parts of its own adds to the depth. -/
def depth : ClassAst → Nat
  | .bracketed _ body => body.depth + 1
  | .union items => depthOfAll items + 1
  | .operation _ left right => max left.depth right.depth + 1
  | .empty | .literal _ | .range _ _ | .ascii _ _ | .perl _ _ | .property _ _ => 0

/-- The greatest depth of the items. -/
def depthOfAll : List ClassAst → Nat
  | [] => 0
  | item :: later => max item.depth (depthOfAll later)

end

end ClassAst

namespace Ast

/-- Items one after another: nothing and single items stand for themselves. -/
def ofItems : List Ast → Ast
  | [] => .empty
  | [item] => item
  | items => .concat items

/-- Branches of which any may match: a single branch stands for itself. -/
def ofBranches : List Ast → Ast
  | [branch] => branch
  | branches => .alternation branches

mutual

/-- How deeply the expression is nested; only what has parts of its own adds to the depth. -/
def depth : Ast → Nat
  | .bracketed _ body => body.depth + 1
  | .repetition body _ _ _ => body.depth + 1
  | .group _ body => body.depth + 1
  | .concat items => depthOfAll items + 1
  | .alternation branches => depthOfAll branches + 1
  | .empty | .flags _ | .literal _ | .dot | .assertion _ | .perl _ _ | .property _ _ => 0

/-- The greatest depth of the expressions. -/
def depthOfAll : List Ast → Nat
  | [] => 0
  | item :: later => max item.depth (depthOfAll later)

end

mutual

/-- The names of the groups, in the order in which the groups open. -/
def groupNames : Ast → List String
  | .group (.named name) body => name :: body.groupNames
  | .group _ body => body.groupNames
  | .repetition body _ _ _ => body.groupNames
  | .concat items => groupNamesOfAll items
  | .alternation branches => groupNamesOfAll branches
  | .empty | .flags _ | .literal _ | .dot | .assertion _ | .perl _ _ | .property _ _
  | .bracketed _ _ => []

/-- The names of the groups of all the expressions. -/
def groupNamesOfAll : List Ast → List String
  | [] => []
  | item :: later => item.groupNames ++ groupNamesOfAll later

end

end Ast

/-- Why a text is no regular expression. -/
inductive Fault where
  | unclosedGroup
  | unopenedGroup
  | badGroupName
  | repeatedGroupName
  | badFlags
  | nothingToRepeat
  | badRepetitionCount
  | unsupportedLookAround
  | unsupportedBackReference
  | unknownEscape
  | badHexadecimal
  | unclosedClass
  | badClassItem
  | badClassRange
  | unknownProperty
  | needsUnicode
  | matchesPartsOfCharacters
  | nestedTooDeeply
  | tooLarge
  | unexpectedEnd
deriving DecidableEq, Repr

end PhraseRules.Regex
