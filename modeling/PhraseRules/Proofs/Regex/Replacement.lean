import PhraseRules.Proofs.Regex.Reach
import PhraseRules.Regex.Replace

/-!
# Texts with their matches replaced

The matches of an expression in a text are replaced from left to right.  `Regex.Replaces` says which
ones they are and what is written, and `Regex.replaceAll_eq_iff` that this is what a replacement
gives: the search for matches goes on until there are none.
-/

namespace PhraseRules.Regex

variable {regex : Regex} {expr : Expr} {text : Array Char} {parts : List ReplacementPart}
  {place start copied : Nat} {last : Option Nat} {found : Match}

/-! ## The next match -/

/-- The match is the first one that begins at the place or behind it. -/
structure Expr.IsNext (expr : Expr) (text : Array Char) (place : Nat) (found : Match) : Prop where
  le_start : place ≤ found.start
  start_le : found.start ≤ text.size
  found_eq : expr.matchAt text found.start = some found
  first : ∀ earlier, place ≤ earlier → earlier < found.start → expr.matchAt text earlier = none

/-- No match begins at the place or behind it. -/
def Expr.HasNoNext (expr : Expr) (text : Array Char) (place : Nat) : Prop :=
  ∀ later, place ≤ later → later ≤ text.size → expr.matchAt text later = none

namespace Expr

theorem start_eq_of_matchAt (found_eq : expr.matchAt text place = some found) :
    found.start = place := by
  obtain ⟨arrival, -, rfl⟩ := Option.map_eq_some_iff.mp found_eq
  rfl

theorem isNext_of_findFrom {count : Nat} (fits : place + count ≤ text.size + 1)
    (found_eq : expr.findFrom text count place = some found) : expr.IsNext text place found := by
  induction count generalizing place with
  | zero => cases found_eq
  | succ count induction =>
      rw [findFrom] at found_eq
      split at found_eq
      case h_1 other here =>
          cases found_eq
          have start_eq := start_eq_of_matchAt here
          refine ⟨Nat.le_of_eq start_eq.symm, by omega, start_eq ▸ here, fun earlier le less => ?_⟩
          omega
      case h_2 nothing =>
          have next := induction (by omega) found_eq
          refine ⟨Nat.le_of_succ_le next.le_start, next.start_le, next.found_eq,
            fun earlier le less => ?_⟩
          rcases Nat.eq_or_lt_of_le le with rfl | behind
          · exact nothing
          · exact next.first earlier behind less

theorem isNext_of_find? (found_eq : expr.find? text place = some found) :
    expr.IsNext text place found := by
  rw [find?] at found_eq
  by_cases inside : place ≤ text.size
  · exact isNext_of_findFrom (by omega) found_eq
  · rw [Nat.sub_eq_zero_of_le (by omega)] at found_eq
    cases found_eq

theorem eq_none_of_findFrom {count : Nat} (none_eq : expr.findFrom text count place = none)
    (later : Nat) (le : place ≤ later) (less : later < place + count) :
    expr.matchAt text later = none := by
  induction count generalizing place with
  | zero => omega
  | succ count induction =>
      rw [findFrom] at none_eq
      split at none_eq
      case h_1 => cases none_eq
      case h_2 nothing =>
          rcases Nat.eq_or_lt_of_le le with rfl | behind
          · exact nothing
          · exact induction none_eq behind (by omega)

theorem hasNoNext_of_find? (none_eq : expr.find? text place = none) :
    expr.HasNoNext text place := by
  intro later le le_size
  exact eq_none_of_findFrom none_eq later le (by omega)

theorem IsNext.unique {other : Match} (next : expr.IsNext text place found)
    (nextOther : expr.IsNext text place other) : found = other := by
  have start_eq : found.start = other.start := by
    rcases Nat.lt_trichotomy found.start other.start with less | equal | greater
    · cases (nextOther.first _ next.le_start less).symm.trans next.found_eq
    · exact equal
    · cases (next.first _ nextOther.le_start greater).symm.trans nextOther.found_eq
  have found_eq := next.found_eq
  rw [start_eq, nextOther.found_eq] at found_eq
  exact (Option.some.inj found_eq).symm

theorem IsNext.start_le_stop (next : expr.IsNext text place found) : found.start ≤ found.stop := by
  obtain ⟨arrival, first, equal⟩ := Option.map_eq_some_iff.mp next.found_eq
  rw [← equal]
  exact expr.keeps_le_place found.start _ (Nat.le_refl _) arrival (List.mem_of_head? first)

theorem IsNext.stop_le_size (next : expr.IsNext text place found) : found.stop ≤ text.size := by
  obtain ⟨arrival, first, equal⟩ := Option.map_eq_some_iff.mp next.found_eq
  rw [← equal]
  exact expr.keeps_place_le_size _ next.start_le arrival (List.mem_of_head? first)

end Expr

/-! ## Replaced matches -/

/--
What is written of a text from the place `copied` on when the matches that begin at `start` or
behind it are replaced; `last` is where the match before ended.
-/
inductive Replaces (regex : Regex) (parts : List ReplacementPart) (text : Array Char) :
    (copied start : Nat) → (last : Option Nat) → List Char → Prop where
  /-- The text stands as it is where there are no matches. -/
  | rest {copied start : Nat} {last : Option Nat} : regex.expr.HasNoNext text start →
      Replaces regex parts text copied start last (stretchOf text copied text.size)
  /-- An empty match where the match before it ended does not count. -/
  | pass {copied start : Nat} {last : Option Nat} {found : Match} {written : List Char} :
      regex.expr.IsNext text start found → found.stop = found.start → last = some found.stop →
      Replaces regex parts text copied (start + 1) last written →
      Replaces regex parts text copied start last written
  /-- The text stands as it is up to the match, and the replacement stands for the match. -/
  | replace {copied start : Nat} {last : Option Nat} {found : Match} {written : List Char} :
      regex.expr.IsNext text start found → ¬(found.stop = found.start ∧ last = some found.stop) →
      Replaces regex parts text found.stop found.stop (some found.stop) written →
      Replaces regex parts text copied start last
        (stretchOf text copied found.start ++ parts.flatMap (·.expand regex text found) ++ written)

theorem Expr.HasNoNext.not_isNext (nothing : expr.HasNoNext text place) :
    ¬expr.IsNext text place found := by
  intro next
  cases (nothing _ next.le_start next.start_le).symm.trans next.found_eq

/-- There is one way to replace the matches. -/
theorem Replaces.unique {written other : List Char}
    (replaces : regex.Replaces parts text copied start last written)
    (replacesOther : regex.Replaces parts text copied start last other) : written = other := by
  induction replaces generalizing other with
  | rest nothing =>
      cases replacesOther with
      | rest => rfl
      | pass next => exact absurd next nothing.not_isNext
      | replace next => exact absurd next nothing.not_isNext
  | pass next empty last_eq _ induction =>
      cases replacesOther with
      | rest nothing => exact absurd next nothing.not_isNext
      | pass _ _ _ later => exact induction later
      | replace nextOther counts =>
          cases next.unique nextOther
          exact absurd ⟨empty, last_eq⟩ counts
  | replace next counts _ induction =>
      cases replacesOther with
      | rest nothing => exact absurd next nothing.not_isNext
      | pass nextOther empty last_eq =>
          cases next.unique nextOther
          exact absurd ⟨empty, last_eq⟩ counts
      | replace nextOther _ later =>
          cases next.unique nextOther
          rw [induction later]

/-- How often matches can still be looked for: twice at each place, but once where the match before
ended. -/
def searchesLeft (text : Array Char) (start : Nat) (last : Option Nat) : Nat :=
  2 * (text.size + 1 - start) + if last = some start then 0 else 1

/-- The matches that are collected are all that are to be replaced. -/
theorem replaces_allMatches {fuel : Nat} (enough : searchesLeft text start last ≤ fuel + 1)
    (last_le : ∀ stop, last = some stop → stop ≤ start) :
    regex.Replaces parts text copied start last
      (replaceMatches regex parts text copied (allMatches regex.expr text fuel start last)) := by
  induction fuel generalizing copied start last with
  | zero =>
      refine .rest fun later le le_size => ?_
      rw [searchesLeft] at enough
      omega
  | succ fuel induction =>
      rw [allMatches]
      split
      case h_1 nothing => exact .rest (Expr.hasNoNext_of_find? nothing)
      case h_2 found found_eq =>
          have next := Expr.isNext_of_find? found_eq
          have le_start := next.le_start
          have start_le_stop := next.start_le_stop
          have stop_le_size := next.stop_le_size
          rw [searchesLeft] at enough
          split
          case isTrue passed =>
              have start_eq : start = found.stop := by
                have := last_le _ passed.2.symm
                omega
              refine .pass next passed.1 passed.2.symm (induction ?_ fun stop equal => ?_)
              · rw [if_pos (passed.2.symm.trans (congrArg some start_eq.symm))] at enough
                rw [searchesLeft]
                split <;> omega
              · exact Nat.le_succ_of_le (last_le stop equal)
          case isFalse counts =>
              rw [replaceMatches]
              refine .replace next (fun both => counts ⟨both.1, both.2.symm⟩)
                (induction ?_ fun stop equal => Nat.le_of_eq (Option.some.inj equal).symm)
              rw [searchesLeft, if_pos rfl]
              -- an empty match at the start is the first one there
              rcases Nat.eq_or_lt_of_le (Nat.le_trans le_start start_le_stop) with equal | behind
              · have unmet : last ≠ some start := fun last_eq =>
                  counts ⟨by omega, by rw [last_eq, ← equal]⟩
                rw [if_neg unmet] at enough
                omega
              · omega

/-- The replacement of all matches is what `Replaces` says. -/
theorem replaceAll_eq_iff {replacement word written : String} :
    regex.replaceAll replacement word = written ↔
      regex.Replaces (replacementParts (replacement.length + 1) replacement.toList)
        word.toList.toArray 0 0 none written.toList := by
  have replaces : regex.Replaces (replacementParts (replacement.length + 1) replacement.toList)
      word.toList.toArray 0 0 none (regex.replaceAll replacement word).toList := by
    rw [replaceAll, String.toList_ofList]
    refine replaces_allMatches ?_ fun _ impossible => by cases impossible
    rw [searchesLeft, if_neg (by simp)]
    omega
  constructor
  · rintro rfl
    exact replaces
  · exact fun other => String.toList_inj.mp (replaces.unique other)

end PhraseRules.Regex
