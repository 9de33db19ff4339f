import PhraseRules.Lexicon.Basic
import PhraseRules.Text.Blank

/-!
# Lexicon files

A line of a lexicon file holds a form, its headword and its tag, with bars between them; a form
without a headword is its own.  Empty lines and lines that begin with `#` are passed over.
-/

namespace PhraseRules

open PhraseRules.Text

/-- What can be wrong with a line. -/
inductive LineFault where
  | wrongFieldCount
  | emptyFormOrTag
deriving DecidableEq, Repr

/-- The wording of a fault in a line. -/
def LineFault.message : LineFault → String
  | .wrongFieldCount => "se esperaba forma|lema|etiqueta"
  | .emptyFormOrTag => "forma o etiqueta vacía"

/-- What can be wrong with a lexicon file. -/
inductive LexiconError where
  /-- There is no file, or what it holds is no text. -/
  | unreadable (path : String)
  | badLine (path : String) (line : Nat) (fault : LineFault)
deriving DecidableEq, Repr

/-- The wording of a fault in a lexicon file.  Why a file cannot be read is not told; `<io>` stands
in its place. -/
def LexiconError.message : LexiconError → String
  | .unreadable path => s!"no se pudo abrir el léxico '{path}': <io>"
  | .badLine path line fault => s!"léxico '{path}', línea {line}: {fault.message}"

namespace Lexicon

/-- The entry that a line holds, or nothing if it is to be passed over. -/
def entryOfLine (line : List Char) : Except LineFault (Option LexiconEntry) :=
  let trimmed := trimChars line
  if trimmed.isEmpty || trimmed.head? == some '#' then .ok none
  else
    match (splitAtChar '|' trimmed).map fun field => String.ofList (trimChars field) with
    | [form, headword, tag] =>
        if form.isEmpty || tag.isEmpty then .error .emptyFormOrTag
        else .ok (some ⟨form, if headword.isEmpty then form else headword, tag⟩)
    | _ => .error .wrongFieldCount

/-- What comes of appending lines: the lexicon with the entries of the lines before the first bad
one, and the number of entries read or what is wrong with that line. -/
abbrev Appended : Type :=
  Lexicon × Except LexiconError Nat

/-- Appends lines that are counted from `number` on, after `count` entries have been read. -/
def appendLines (source : String) (lexicon : Lexicon) (number count : Nat) :
    List (List Char) → Appended
  | [] => (lexicon, .ok count)
  | line :: later =>
      match entryOfLine line with
      | .error fault => (lexicon, .error (.badLine source number fault))
      | .ok none => appendLines source lexicon (number + 1) count later
      | .ok (some entry) =>
          appendLines source (lexicon.insert entry.form entry.headword entry.tag) (number + 1)
            (count + 1) later

/-- Appends the entries of a text.  The source is what faults are reported with. -/
def appendText (lexicon : Lexicon) (text source : String) : Appended :=
  appendLines source lexicon 1 0 (linesOf text.toList)

/-- Appends the entries of a file with the given content; no content stands for no file. -/
def appendFile (lexicon : Lexicon) (path : String) (content : Option ByteArray) : Appended :=
  match content.bind String.fromUTF8? with
  | some text => lexicon.appendText text path
  | none => (lexicon, .error (.unreadable path))

/-- The lexicon alone, if all went well. -/
def ofAppended : Appended → Except LexiconError Lexicon
  | (lexicon, .ok _) => .ok lexicon
  | (_, .error fault) => .error fault

/-- The lexicon with the entries of a text. -/
def ofText (text source : String) : Except LexiconError Lexicon :=
  ofAppended (empty.appendText text source)

/-- The lexicon with the entries of a file. -/
def ofFile (path : String) (content : Option ByteArray) : Except LexiconError Lexicon :=
  ofAppended (empty.appendFile path content)

end Lexicon

end PhraseRules
