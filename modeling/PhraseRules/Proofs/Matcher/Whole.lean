import PhraseRules.Proofs.Matcher.Enumerated

/-!
# Matchers of whole texts

A matcher of a regular expression accepts the texts that the expression matches as a whole.  It is
made by writing the pattern into anchors, or by expanding it, and never looks at the pattern by
itself: `accepts_iff_matchesWhole` says for which patterns it is what it should be, and the pattern
`a)|(?:b`, which closes the group around it, shows what becomes of others.
-/

namespace PhraseRules.Matcher

open PhraseRules.Regex
open PhraseRules.Text

variable {pattern : String} {caseSensitive : Bool} {matcher : Matcher}

theorem accepts_of_pattern_eq_empty (compiled : compile "" true caseSensitive = .ok matcher)
    (text : String) : matcher.accepts text = true := by
  cases compiled
  rfl

theorem isMatch_of_expand?_eq_none (nonempty : pattern ≠ "") (unlisted : expand? pattern = none)
    (compiled : compile pattern true caseSensitive = .ok matcher) :
    ∃ regex, Regex.compile (anchored pattern caseSensitive) = .ok regex ∧
      ∀ text, matcher.accepts text = regex.isMatch text := by
  rw [compile_eq_of_expand?_eq_none nonempty unlisted] at compiled
  cases regex_eq : Regex.compile (anchored pattern caseSensitive) with
  | error fault =>
      rw [regex_eq] at compiled
      cases compiled
  | ok regex =>
      rw [regex_eq] at compiled
      cases compiled
      exact ⟨regex, rfl, fun _ => rfl⟩

/--
A matcher of a regular expression accepts every text if its pattern is empty.  If the pattern is not
expanded to values, it is an expression by itself, and the matcher accepts just the texts that this
matches as a whole, unless the pattern closes a group that it did not open.  If it is expanded, and
the characters that it escapes stand for themselves, the same holds of all texts where case counts
and else of those that agree in case with the values, unless the expression by itself is refused for
its depth or its size.
-/
theorem accepts_iff_matchesWhole (compiled : compile pattern true caseSensitive = .ok matcher) :
    (pattern = "" → ∀ text, matcher.accepts text = true) ∧
    (pattern ≠ "" → expand? pattern = none →
      Regex.compileUnder (!caseSensitive) pattern = .error .unopenedGroup ∨
      ∃ own, Regex.compileUnder (!caseSensitive) pattern = .ok own ∧
        ∀ text, matcher.accepts text = true ↔ own.MatchesWhole text) ∧
    ∀ values, pattern ≠ "" → expand? pattern = some values →
      hasLiteralEscapes pattern.toList = true →
      IsRefused (Regex.compileUnder (!caseSensitive) pattern) ∨
      ∃ own, Regex.compileUnder (!caseSensitive) pattern = .ok own ∧
        ∀ text, caseSensitive = true ∨ (∀ value ∈ values, AgreeInCase value text) →
          (matcher.accepts text = true ↔ own.MatchesWhole text) := by
  refine ⟨?_, ?_, ?_⟩
  · rintro rfl
    exact accepts_of_pattern_eq_empty compiled
  · intro nonempty unlisted
    rcases isMatch_of_expand?_eq_none nonempty unlisted compiled with
      ⟨regex, regex_eq, accepts_eq⟩
    rcases compile_anchored regex_eq with unopened | ⟨own, own_eq, isMatch_iff⟩
    · left
      rw [Regex.compileUnder, unopened]
      rfl
    · exact Or.inr ⟨own, own_eq, fun text => by rw [accepts_eq, isMatch_iff]⟩
  · intro values nonempty expanded literal
    rcases accepts_iff_of_expand? nonempty expanded caseSensitive with
      ⟨other, other_eq, accepts_iff⟩
    rcases Except.ok.inj (compiled.symm.trans other_eq) with rfl
    rcases compileUnder_of_expand? expanded literal caseSensitive with
      refused | ⟨own, own_eq, matchesWhole_iff⟩
    · exact Or.inl refused
    · refine Or.inr ⟨own, own_eq, ?_⟩
      intro text agree
      rw [accepts_iff, matchesWhole_iff]
      refine exists_congr fun value => and_congr_right fun member => ?_
      exact (forall₂_admits_iff_isSameText
        (agree.imp_right fun agree => agree value member)).symm

/-- A pattern that is not expanded, and the texts that it matches as a whole. -/
theorem accepts_iff_matchesWhole_of_repetition :
    ∃ matcher own, compile "(de|a)+l" true true = .ok matcher ∧
      Regex.compile "(de|a)+l" = .ok own ∧
        ∀ text, matcher.accepts text = true ↔ own.MatchesWhole text := by
  have unlisted : expand? "(de|a)+l" = none := by decide +kernel
  cases compiled : compile "(de|a)+l" true true with
  | error fault =>
      have succeeds : (compile "(de|a)+l" true true).isOk = true := by decide +kernel
      rw [compiled] at succeeds
      cases succeeds
  | ok matcher =>
      rcases (accepts_iff_matchesWhole compiled).2.1 (by decide) unlisted with
        unopened | ⟨own, own_eq, accepts_iff⟩
      · have opened : Regex.compileUnder false "(de|a)+l" ≠ .error .unopenedGroup := by
          decide +kernel
        exact absurd unopened opened
      · exact ⟨matcher, own, rfl, (Regex.compileUnder_false _).symm.trans own_eq, accepts_iff⟩

/-- A pattern that closes the group around it is no expression and is taken for one. -/
theorem accepts_of_unopened_group :
    Regex.compile "a)|(?:b" = .error .unopenedGroup ∧
      (compile "a)|(?:b" true true).map (fun matcher => matcher.accepts "ax") = .ok true := by
  decide +kernel

end PhraseRules.Matcher
