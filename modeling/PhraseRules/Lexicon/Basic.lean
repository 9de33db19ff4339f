import Std.Data.HashMap
import PhraseRules.Sentence.Basic
import PhraseRules.Synthesis

/-!
# Lexicons

A lexicon lists word forms with their headwords and tags.  Forms are looked up whatever their case,
headwords exactly; both give entries in the order in which they were inserted.
-/

namespace PhraseRules

open PhraseRules.Text

/-- A word form with its headword and tag. -/
structure LexiconEntry where
  form : String
  headword : String
  tag : String
deriving DecidableEq, Repr

/-- A list of entries, indexed by form and by headword. -/
structure Lexicon where
  /-- All entries in the order in which they were inserted. -/
  entries : Array LexiconEntry
  /-- Where the entries stand whose forms have a certain lowercase. -/
  byForm : Std.HashMap String (List Nat)
  /-- Where the entries of a headword stand. -/
  byHeadword : Std.HashMap String (List Nat)

namespace Lexicon

/-- The lexicon without entries. -/
def empty : Lexicon :=
  ⟨#[], ∅, ∅⟩

/-- The number of entries. -/
def size (lexicon : Lexicon) : Nat :=
  lexicon.entries.size

/-- Whether there are no entries. -/
def isEmpty (lexicon : Lexicon) : Bool :=
  lexicon.entries.isEmpty

/-- The entries at some places. -/
def entriesAt (lexicon : Lexicon) (places : List Nat) : List LexiconEntry :=
  places.filterMap fun place => lexicon.entries[place]?

/-- The entries for a form, whatever its case. -/
def lookup (lexicon : Lexicon) (form : String) : List LexiconEntry :=
  lexicon.entriesAt (lexicon.byForm.getD (lowercase form) [])

/-- Whether there are entries for a form, whatever its case. -/
def contains (lexicon : Lexicon) (form : String) : Bool :=
  lexicon.byForm.contains (lowercase form)

/-- Adds a place behind those that an index has under a key. -/
def addToIndex (index : Std.HashMap String (List Nat)) (key : String) (place : Nat) :
    Std.HashMap String (List Nat) :=
  index.insert key (index.getD key [] ++ [place])

/-- Inserts an entry, unless it is there already. -/
def insert (lexicon : Lexicon) (form headword tag : String) : Lexicon :=
  let entry : LexiconEntry := ⟨form, headword, tag⟩
  if (lexicon.lookup form).contains entry then lexicon
  else
    let place := lexicon.entries.size
    ⟨lexicon.entries.push entry,
      addToIndex lexicon.byForm (lowercase form) place,
      addToIndex lexicon.byHeadword headword place⟩

/-- The forms of a headword whose tags the matcher accepts, each once. -/
def formsOf (lexicon : Lexicon) (headword : String) (target : Matcher) : List String :=
  let accepted := (lexicon.entriesAt (lexicon.byHeadword.getD headword [])).filter fun entry =>
    target.accepts entry.tag
  distinct (accepted.map (·.form))

/-- The lexicon as a synthesizer, which never fails. -/
def synthesizer (lexicon : Lexicon) : Synthesizer :=
  fun headword target => .ok (lexicon.formsOf headword target)

/-- Adds the readings that the lexicon has for a word. -/
def tagPosition (lexicon : Lexicon) (position : Position) : Position :=
  if position.sentenceStart then position
  else position.addReadings ((lexicon.lookup position.text).map fun entry =>
    .tagged position.text entry.headword entry.tag)

/-- Adds the readings that the lexicon has for the words of a sentence. -/
def tag (lexicon : Lexicon) (sentence : Sentence) : Sentence :=
  ⟨sentence.positions.map lexicon.tagPosition⟩

end Lexicon

end PhraseRules
