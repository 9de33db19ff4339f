import PhraseRules.Search.Basic

/-!
# Scanning a sentence

A sentence is scanned from left to right for occurrences of a query.  Behind an occurrence that is
taken the scan goes on where it stops; behind any other, one word further.
-/

namespace PhraseRules.Query

/--
What `visit` makes of the occurrences from `start` on that it takes; `fuel` bounds the number of
places that are left.
-/
def scan {α : Type} (query : Query) (sentence : Sentence)
    (visit : Occurrence → Except SearchError (Option α)) :
    (fuel : Nat) → (start : Nat) → Except SearchError (List α)
  | 0, _ => .ok []
  | fuel + 1, start =>
      if start < sentence.length then do
        match ← query.occurrenceAt? sentence start with
        | none => query.scan sentence visit fuel (start + 1)
        | some occurrence =>
            match ← visit occurrence with
            | none => query.scan sentence visit fuel (start + 1)
            | some result => do
                .ok (result :: (← query.scan sentence visit fuel occurrence.stop))
      else
        .ok []

/-- The occurrences in a sentence, from left to right and without overlap. -/
def occurrences (query : Query) (sentence : Sentence) : Except SearchError (List Occurrence) :=
  query.scan sentence (fun occurrence => .ok (some occurrence)) sentence.length 0

end PhraseRules.Query
