import PhraseRules.Lexicon.File
import PhraseRules.Proofs.Lexicon.Index
import PhraseRules.Proofs.Text.Lines

/-!
# Loading a lexicon

Lines are read one after another, and each leaves a lexicon, a line number and a count that the next
goes on from; the first bad line ends it.  So lines can be appended in two rounds
(`appendLines_append`), and where the counting began shows in the numbers alone
(`appendLines_behind`).  A text that is cut at a line feed gets a blank line at most, which says
nothing (`appendLines_splitAtChar`), and a carriage return that is cut off from its line feed is
trimmed away.
-/

namespace PhraseRules

open PhraseRules.Text

/-- The fault as it is reported when further lines come before. -/
def LexiconError.behind (lines : Nat) : LexiconError → LexiconError
  | .unreadable path => .unreadable path
  | .badLine path line fault => .badLine path (lines + line) fault

namespace Lexicon

variable {lexicon grown : Lexicon} {source : String} {number count : Nat}
  {line : List Char} {lines : List (List Char)} {entry : LexiconEntry}

/-- What comes of appending lines when further lines and entries come before. -/
def Appended.behind (lines entries : Nat) : Appended → Appended
  | (lexicon, .ok count) => (lexicon, .ok (entries + count))
  | (lexicon, .error fault) => (lexicon, .error (fault.behind lines))

/-! ## Single lines -/

/-- A carriage return at the end of a line does not matter. -/
theorem entryOfLine_dropCarriageReturn (line : List Char) :
    entryOfLine (dropCarriageReturn line) = entryOfLine line := by
  rw [entryOfLine, entryOfLine, trimChars_dropCarriageReturn]

/-! ## Lines in several rounds -/

/-- Where the lines before were all read, further lines go on from what these left. -/
theorem appendLines_append (source : String) (lexicon : Lexicon) (number count : Nat)
    (earlier later : List (List Char)) :
    appendLines source lexicon number count (earlier ++ later) =
      match appendLines source lexicon number count earlier with
      | (grown, .ok total) => appendLines source grown (number + earlier.length) total later
      | (grown, .error fault) => (grown, .error fault) := by
  induction earlier generalizing lexicon number count with
  | nil => rfl
  | cons line others induction =>
      rw [List.cons_append, appendLines, appendLines, List.length_cons, ← Nat.add_assoc,
        Nat.add_right_comm]
      split
      case h_1 => rfl
      case h_2 => exact induction lexicon (number + 1) count
      case h_3 entry _ => exact induction _ (number + 1) (count + 1)

theorem appendLines_behind (source : String) (lexicon : Lexicon) (before entries number count : Nat)
    (lines : List (List Char)) :
    appendLines source lexicon (before + number) (entries + count) lines =
      (appendLines source lexicon number count lines).behind before entries := by
  induction lines generalizing lexicon number count with
  | nil => rfl
  | cons line later induction =>
      rw [appendLines, appendLines]
      split
      case h_1 => rfl
      case h_2 => exact induction lexicon (number + 1) count
      case h_3 entry _ => exact induction _ (number + 1) (count + 1)

theorem appendLines_singleton_dropCarriageReturn :
    appendLines source lexicon number count [dropCarriageReturn line] =
      appendLines source lexicon number count [line] := by
  rw [appendLines.eq_2, appendLines.eq_2, entryOfLine_dropCarriageReturn]

/-- The stretches between line feeds say the same as the lines: a last one that is empty says
nothing. -/
theorem appendLines_splitAtChar (source : String) (lexicon : Lexicon) (number count : Nat)
    (chars : List Char) :
    appendLines source lexicon number count ((splitAtChar '\n' chars).map dropCarriageReturn) =
      appendLines source lexicon number count (linesOf chars) := by
  obtain ⟨ended, final, split_eq, lines_eq⟩ := exists_linesOf_eq chars
  rw [split_eq, lines_eq, List.map_append, List.map_singleton, appendLines_append,
    appendLines_append]
  split
  case h_1 grown total _ =>
      rw [appendLines_singleton_dropCarriageReturn]
      cases final with
      | nil => rfl
      | cons c rest => rfl
  case h_2 => rfl

/-- A text that is cut at a line feed can be appended in two parts. -/
theorem appendText_append (lexicon : Lexicon) (source first second : String) :
    lexicon.appendText (first ++ "\n" ++ second) source =
      match lexicon.appendText first source with
      | (grown, .ok count) =>
          (grown.appendText second source).behind (first.toList.count '\n' + 1) count
      | (grown, .error fault) => (grown, .error fault) := by
  have text_eq : (first ++ "\n" ++ second).toList = first.toList ++ '\n' :: second.toList := by
    simp
  rw [appendText, text_eq, linesOf_append_cons, appendLines_append, appendLines_splitAtChar,
    List.length_map, length_splitAtChar, ← appendText]
  split
  case h_1 grown count _ =>
      rw [appendText, ← appendLines_behind, Nat.add_comm 1]
      rfl
  case h_2 => rfl

/-! ## What is read -/

/-- The entries of the lines, without those that hold none. -/
def entriesOf (lines : List (List Char)) : List LexiconEntry :=
  lines.filterMap fun line => (entryOfLine line).toOption.join

/-- None of the lines is bad, and the lexicon has grown by their entries. -/
structure Takes (lexicon : Lexicon) (lines : List (List Char)) (grown : Lexicon) : Prop where
  readable : ∀ line ∈ lines, ∃ read, entryOfLine line = .ok read
  grown_eq : grown = lexicon.insertAll (entriesOf lines)

theorem entriesOf_cons_of_none (read_eq : entryOfLine line = .ok none) :
    entriesOf (line :: lines) = entriesOf lines :=
  List.filterMap_cons_none (by rw [read_eq]; rfl)

theorem entriesOf_cons_of_some (read_eq : entryOfLine line = .ok (some entry)) :
    entriesOf (line :: lines) = entry :: entriesOf lines :=
  List.filterMap_cons_some (by rw [read_eq]; rfl)

namespace Takes

theorem nil (lexicon : Lexicon) : lexicon.Takes [] lexicon where
  readable := fun _ member => by cases member
  grown_eq := rfl

theorem cons_none (takes : lexicon.Takes lines grown) (read_eq : entryOfLine line = .ok none) :
    lexicon.Takes (line :: lines) grown where
  readable := List.forall_mem_cons.mpr ⟨⟨_, read_eq⟩, takes.readable⟩
  grown_eq := by rw [entriesOf_cons_of_none read_eq, takes.grown_eq]

theorem cons_some
    (takes : (lexicon.insert entry.form entry.headword entry.tag).Takes lines grown)
    (read_eq : entryOfLine line = .ok (some entry)) : lexicon.Takes (line :: lines) grown where
  readable := List.forall_mem_cons.mpr ⟨⟨_, read_eq⟩, takes.readable⟩
  grown_eq := by
    rw [entriesOf_cons_of_some read_eq, takes.grown_eq]
    rfl

theorem entries_eq (takes : lexicon.Takes lines grown) (indexed : lexicon.IsIndexed) :
    grown.entries.toList =
      lexicon.entries.toList ++ ((entriesOf lines).removeAll lexicon.entries.toList).eraseDups := by
  rw [takes.grown_eq, indexed.entries_insertAll, distinctBeyond_eq_eraseDups]

end Takes

/-- If appending lines ends well, all of them were taken, and their entries counted. -/
theorem takes_of_appendLines_eq_ok {total : Nat}
    (appended : appendLines source lexicon number count lines = (grown, .ok total)) :
    lexicon.Takes lines grown ∧ total = count + (entriesOf lines).length := by
  induction lines generalizing lexicon number count with
  | nil =>
      cases appended
      exact ⟨.nil _, rfl⟩
  | cons line later induction =>
      rw [appendLines] at appended
      split at appended
      case h_1 => cases appended
      case h_2 read_eq =>
          obtain ⟨takes, total_eq⟩ := induction appended
          exact ⟨takes.cons_none read_eq, by rw [total_eq, entriesOf_cons_of_none read_eq]⟩
      case h_3 entry read_eq =>
          obtain ⟨takes, total_eq⟩ := induction appended
          refine ⟨takes.cons_some read_eq, ?_⟩
          rw [total_eq, entriesOf_cons_of_some read_eq, List.length_cons]
          omega

/-- If appending lines fails, it is for a bad line, and the lines before it were taken. -/
theorem exists_takes_of_appendLines_eq_error {fault : LexiconError}
    (appended : appendLines source lexicon number count lines = (grown, .error fault)) :
    ∃ place bad what, lines[place]? = some bad ∧ entryOfLine bad = .error what ∧
      fault = .badLine source (number + place) what ∧ lexicon.Takes (lines.take place) grown := by
  induction lines generalizing lexicon number count with
  | nil => cases appended
  | cons line later induction =>
      rw [appendLines] at appended
      split at appended
      case h_1 what bad =>
          cases appended
          exact ⟨0, line, what, rfl, bad, rfl, .nil _⟩
      case h_2 read_eq =>
          obtain ⟨place, bad, what, place_eq, isBad, fault_eq, takes⟩ := induction appended
          refine ⟨place + 1, bad, what, place_eq, isBad, ?_, takes.cons_none read_eq⟩
          rw [fault_eq, Nat.add_assoc, Nat.add_comm 1]
      case h_3 entry read_eq =>
          obtain ⟨place, bad, what, place_eq, isBad, fault_eq, takes⟩ := induction appended
          refine ⟨place + 1, bad, what, place_eq, isBad, ?_, takes.cons_some read_eq⟩
          rw [fault_eq, Nat.add_assoc, Nat.add_comm 1]

/--
A text can be appended in two parts, cut at a line feed.  The lexicon and the count are those of one
part after the other; a fault of the first part is reported as it is, and one of the second further
down by the lines of the first.  Of each text the lexicon takes all lines, or just those before the
one that is reported, which is bad.
-/
theorem appendText_composes_and_stops (inserted : List LexiconEntry) (source : String) :
    let lexicon := ofEntries inserted
    (∀ first second, lexicon.appendText (first ++ "\n" ++ second) source =
      match lexicon.appendText first source with
      | (grown, .ok count) =>
          (grown.appendText second source).behind (first.toList.count '\n' + 1) count
      | (grown, .error fault) => (grown, .error fault)) ∧
      (∀ text grown count, lexicon.appendText text source = (grown, .ok count) →
        lexicon.Takes (linesOf text.toList) grown ∧
          count = (entriesOf (linesOf text.toList)).length) ∧
      ∀ text grown fault, lexicon.appendText text source = (grown, .error fault) →
        ∃ place bad what, (linesOf text.toList)[place]? = some bad ∧
          entryOfLine bad = .error what ∧ fault = .badLine source (place + 1) what ∧
          lexicon.Takes ((linesOf text.toList).take place) grown ∧
          grown.entries.toList = lexicon.entries.toList ++
            ((entriesOf ((linesOf text.toList).take place)).removeAll
              lexicon.entries.toList).eraseDups := by
  intro lexicon
  refine ⟨lexicon.appendText_append source, fun text grown count appended => ?_,
    fun text grown fault appended => ?_⟩
  · rw [← Nat.zero_add (entriesOf _).length]
    exact takes_of_appendLines_eq_ok appended
  · obtain ⟨place, bad, what, place_eq, isBad, fault_eq, takes⟩ :=
      exists_takes_of_appendLines_eq_error appended
    rw [Nat.add_comm 1] at fault_eq
    exact ⟨place, bad, what, place_eq, isBad, fault_eq, takes,
      takes.entries_eq (isIndexed_ofEntries inserted)⟩

/-- A comment and a noun are read; a line with two fields behind them is reported as the third. -/
theorem appendText_composes_and_stops_of_two_fields :
    let lexicon := ofEntries [⟨"perro", "perro", "NCMS000"⟩]
    let noun : LexiconEntry := ⟨"casa", "casa", "NCFS000"⟩
    let first := "# l\ncasa||NCFS000\r"
    let second := "casas|casa\nfin||N"
    lexicon.appendText first "l" = (lexicon.insertAll [noun], .ok 1) ∧
      (lexicon.insertAll [noun]).appendText second "l" =
        (lexicon.insertAll [noun], .error (.badLine "l" 1 .wrongFieldCount)) ∧
      lexicon.appendText (first ++ "\n" ++ second) "l" =
        (lexicon.insertAll [noun], .error (.badLine "l" 3 .wrongFieldCount)) ∧
      (lexicon.insertAll [noun]).entries.toList = [⟨"perro", "perro", "NCMS000"⟩, noun] := by
  intro lexicon noun first second
  have firstRead : lexicon.appendText first "l" = (lexicon.insertAll [noun], .ok 1) := by
    have lines_eq : linesOf first.toList = ["# l".toList, "casa||NCFS000\r".toList] := by
      decide +kernel
    have comment : entryOfLine "# l".toList = .ok none := by decide +kernel
    have read : entryOfLine "casa||NCFS000\r".toList = .ok (some noun) := by decide +kernel
    rw [appendText, lines_eq, appendLines, comment, appendLines.eq_2, read]
    rfl
  have secondFails : (lexicon.insertAll [noun]).appendText second "l" =
      (lexicon.insertAll [noun], .error (.badLine "l" 1 .wrongFieldCount)) := by
    have lines_eq : linesOf second.toList = ["casas|casa".toList, "fin||N".toList] := by
      decide +kernel
    have bad : entryOfLine "casas|casa".toList = .error .wrongFieldCount := by decide +kernel
    rw [appendText, lines_eq, appendLines, bad]
  obtain ⟨composes, -, stops⟩ :=
    appendText_composes_and_stops [⟨"perro", "perro", "NCMS000"⟩] "l"
  have newlines : first.toList.count '\n' = 1 := by decide +kernel
  have wholeFails : lexicon.appendText (first ++ "\n" ++ second) "l" =
      (lexicon.insertAll [noun], .error (.badLine "l" 3 .wrongFieldCount)) := by
    rw [composes, firstRead]
    dsimp only
    rw [secondFails, newlines]
    rfl
  obtain ⟨place, bad, what, -, -, fault_eq, -, entries_eq⟩ := stops _ _ _ wholeFails
  cases fault_eq
  refine ⟨firstRead, secondFails, wholeFails, ?_⟩
  rw [entries_eq, entries_ofEntries]
  decide +kernel

end Lexicon

end PhraseRules
