import Mathlib.Data.List.Forall2
import PhraseRules.Text.Casing
import PhraseRules.Unicode.Folding

/-!
# Lowercase and case variants

Texts can be compared without regard to case in two ways: by their lowercase, or character by
character, by the case variants of each.  The two differ for some characters, such as `ſ`, which is
a variant of `s` and its own lowercase.  Where the characters of two texts agree, so do the texts.
-/

namespace PhraseRules.Text

open PhraseRules.Unicode

/-- The lowercase of the character is one character, whatever stands around it. -/
def IsLowercasedAlone (c : Char) : Prop :=
  c ≠ 'Σ' ∧ (toLowercase c).length = 1
deriving Decidable

/-- Every character of the one text is a case variant of just those of the other that have the same
lowercase. -/
def AgreeInCase (first second : String) : Prop :=
  (∀ c ∈ first.toList, IsLowercasedAlone c) ∧ (∀ c ∈ second.toList, IsLowercasedAlone c) ∧
    ∀ c ∈ first.toList, ∀ d ∈ second.toList,
      c ∈ caseVariants d ↔ toLowercase c = toLowercase d
deriving Decidable

theorem lowercaseChars_eq_flatMap {before text : List Char} (noSigma : ∀ c ∈ text, c ≠ 'Σ') :
    lowercaseChars before text = text.flatMap toLowercase := by
  induction text generalizing before with
  | nil => rfl
  | cons c rest induction =>
      rw [lowercaseChars, if_neg (noSigma c List.mem_cons_self), List.flatMap_cons,
        induction fun other member => noSigma other (List.mem_cons_of_mem _ member)]

/-- Lists of as many characters each are one only if they are so piece by piece. -/
theorem flatMap_toLowercase_eq_iff {first second : List Char}
    (aloneFirst : ∀ c ∈ first, IsLowercasedAlone c)
    (aloneSecond : ∀ c ∈ second, IsLowercasedAlone c) :
    first.flatMap toLowercase = second.flatMap toLowercase ↔
      List.Forall₂ (fun c d => toLowercase c = toLowercase d) first second := by
  induction first generalizing second with
  | nil =>
      cases second with
      | nil => simp
      | cons d rest =>
          have nonempty : toLowercase d ≠ [] :=
            List.ne_nil_of_length_pos (by rw [(aloneSecond d List.mem_cons_self).2]; decide)
          simp [nonempty]
  | cons c rest induction =>
      have alone := (aloneFirst c List.mem_cons_self).2
      cases second with
      | nil =>
          have nonempty : toLowercase c ≠ [] :=
            List.ne_nil_of_length_pos (by rw [alone]; decide)
          simp [nonempty]
      | cons d later =>
          have sameLength : (toLowercase c).length = (toLowercase d).length :=
            alone.trans (aloneSecond d List.mem_cons_self).2.symm
          rw [List.flatMap_cons, List.flatMap_cons, List.forall₂_cons,
            ← induction (fun _ member => aloneFirst _ (List.mem_cons_of_mem _ member))
              fun _ member => aloneSecond _ (List.mem_cons_of_mem _ member)]
          constructor
          · exact fun equal => List.append_inj equal sameLength
          · rintro ⟨equal, equalRest⟩
            rw [equal, equalRest]

theorem forall₂_mem_caseVariants_iff_lowercase_eq {first second : String}
    (agree : AgreeInCase first second) :
    List.Forall₂ (fun c d => c ∈ caseVariants d) first.toList second.toList ↔
      lowercase first = lowercase second := by
  rcases agree with ⟨aloneFirst, aloneSecond, agree⟩
  rw [lowercase, lowercase, String.ofList_inj,
    lowercaseChars_eq_flatMap fun c member => (aloneFirst c member).1,
    lowercaseChars_eq_flatMap fun c member => (aloneSecond c member).1,
    flatMap_toLowercase_eq_iff aloneFirst aloneSecond, List.forall₂_iff_zip,
    List.forall₂_iff_zip]
  refine and_congr_right fun _ => ?_
  constructor
  · intro variants c d member
    rcases List.of_mem_zip member with ⟨memberFirst, memberSecond⟩
    exact (agree c memberFirst d memberSecond).mp (variants member)
  · intro lowercases c d member
    rcases List.of_mem_zip member with ⟨memberFirst, memberSecond⟩
    exact (agree c memberFirst d memberSecond).mpr (lowercases member)

/-! ## ASCII -/

/-- The code point of the lowercase of an ASCII character. -/
def asciiLowercase (point : Nat) : Nat :=
  if 65 ≤ point ∧ point ≤ 90 then point + 32 else point

theorem toLowercase_ascii :
    ∀ point : Fin 128, toLowercase (Char.ofNat point) = [Char.ofNat (asciiLowercase point)] := by
  decide +kernel

theorem caseVariants_ascii :
    ∀ point : Fin 128, ((caseVariants (Char.ofNat point)).map Char.toNat).filter (· < 128) =
      (List.range 128).filter fun other => asciiLowercase other = asciiLowercase point := by
  decide +kernel

theorem toLowercase_of_ascii {c : Char} (isAscii : c.toNat < 128) :
    toLowercase c = [Char.ofNat (asciiLowercase c.toNat)] := by
  simpa using toLowercase_ascii ⟨c.toNat, isAscii⟩

theorem toNat_ofNat_asciiLowercase {point : Nat} (isAscii : point < 128) :
    (Char.ofNat (asciiLowercase point)).toNat = asciiLowercase point := by
  have valid : (asciiLowercase point).isValidChar := by
    rw [asciiLowercase]
    split
    · exact Or.inl (by omega)
    · exact Or.inl (by omega)
  rw [Char.ofNat, dif_pos valid]
  rfl

/-- Of ASCII characters just those are case variants that have the same lowercase. -/
theorem mem_caseVariants_iff_of_ascii {c d : Char} (isAsciiLeft : c.toNat < 128)
    (isAsciiRight : d.toNat < 128) :
    c ∈ caseVariants d ↔ toLowercase c = toLowercase d := by
  have variants := caseVariants_ascii ⟨d.toNat, isAsciiRight⟩
  simp only [Char.ofNat_toNat] at variants
  have member : c.toNat ∈ ((caseVariants d).map Char.toNat).filter (· < 128) ↔
      c ∈ caseVariants d := by
    rw [List.mem_filter, List.mem_map]
    simp [isAsciiLeft, Char.toNat_inj]
  rw [← member, variants, toLowercase_of_ascii isAsciiLeft, toLowercase_of_ascii isAsciiRight,
    List.mem_filter, List.mem_range, List.singleton_inj, ← Char.toNat_inj,
    toNat_ofNat_asciiLowercase isAsciiLeft, toNat_ofNat_asciiLowercase isAsciiRight]
  simp [isAsciiLeft]

/-- Texts of ASCII characters agree in case. -/
theorem agreeInCase_of_ascii {first second : String}
    (firstAscii : ∀ c ∈ first.toList, c.toNat < 128)
    (secondAscii : ∀ c ∈ second.toList, c.toNat < 128) : AgreeInCase first second := by
  have alone : ∀ c : Char, c.toNat < 128 → IsLowercasedAlone c := by
    intro c isAscii
    refine ⟨?_, by rw [toLowercase_of_ascii isAscii]; rfl⟩
    rintro rfl
    exact absurd isAscii (by decide)
  exact ⟨fun c member => alone c (firstAscii c member),
    fun c member => alone c (secondAscii c member),
    fun c member d memberSecond =>
      mem_caseVariants_iff_of_ascii (firstAscii c member) (secondAscii d memberSecond)⟩

end PhraseRules.Text
