import Mathlib.Computability.Language
import PhraseRules.Proofs.Outcome
import PhraseRules.Proofs.Regex.Reach

/-!
# Expressions that list words

An expression made of characters, sequences, choices and groups asks for one word out of a language.
What its parts list makes up what it lists: a sequence lists the product of the languages, a choice
their sum.
-/

/-- A set of words. -/
abbrev WordLanguage : Type :=
  Language Char

namespace PhraseRules.Regex

open PhraseRules.Unicode

variable {text : Array Char} {same : Char → Char → Prop}

/-! ## Words in a text -/

/-- From the one place to the other the text has the characters of the word, in the given sense. -/
def Spells (text : Array Char) (same : Char → Char → Prop) : List Char → Nat → Nat → Prop
  | [], place, stop => stop = place
  | c :: later, place, stop =>
      (∃ found, text[place]? = some found ∧ same c found) ∧
        Spells text same later (place + 1) stop

theorem spells_append_iff {first second : List Char} {place stop : Nat} :
    Spells text same (first ++ second) place stop ↔
      ∃ between, Spells text same first place between ∧
        Spells text same second between stop := by
  induction first generalizing place with
  | nil => simp [Spells]
  | cons c later induction =>
      simp only [List.cons_append, Spells, induction]
      constructor
      · rintro ⟨standing, between, spelled, spelledOn⟩
        exact ⟨between, ⟨standing, spelled⟩, spelledOn⟩
      · rintro ⟨between, ⟨standing, spelled⟩, spelledOn⟩
        exact ⟨standing, between, spelled, spelledOn⟩

/-- A word that the text has up to its end is all that there is. -/
theorem spells_size_iff {word : List Char} {place : Nat} (within : place ≤ text.size) :
    Spells text same word place text.size ↔
      List.Forall₂ same word (text.toList.drop place) := by
  induction word generalizing place with
  | nil =>
      rw [Spells, List.forall₂_nil_left_iff, List.drop_eq_nil_iff, Array.length_toList]
      omega
  | cons c later induction =>
      rw [Spells]
      rcases Nat.lt_or_eq_of_le within with less | rfl
      · have less_length : place < text.toList.length := by rwa [Array.length_toList]
        rw [induction less, List.drop_eq_getElem_cons less_length, List.forall₂_cons]
        simp [less]
      · rw [← Array.length_toList, List.drop_length, List.forall₂_nil_right_iff]
        simp

/-! ## Expressions -/

/-- Under the flags the character that is written stands for the one that is found. -/
def Flags.Admits (flags : Flags) (written found : Char) : Prop :=
  if flags.caseInsensitive then written ∈ caseVariants found else written = found

/-- The expression asks for one of the words. -/
def Expr.Lists (expr : Expr) (same : Char → Char → Prop) (words : WordLanguage) : Prop :=
  ∀ (text : Array Char) (arrival : Arrival) (place : Nat),
    expr.Reaches text arrival place ↔ ∃ word ∈ words, Spells text same word arrival.place place

namespace Expr

theorem lists_empty : empty.Lists same 1 := by
  intro text arrival place
  simp [reaches_empty_iff, Language.mem_one, Spells]

theorem lists_sequence {exprs : List Expr} {languages : List WordLanguage}
    (each : List.Forall₂ (fun expr words => expr.Lists same words) exprs languages) :
    (sequence exprs).Lists same languages.prod := by
  induction each with
  | nil => exact lists_empty
  | @cons expr words exprs languages listsFirst listLater induction =>
      intro text arrival place
      rw [reaches_sequence_cons_iff, List.prod_cons]
      constructor
      · rintro ⟨between, member, reaches⟩
        rcases (listsFirst text arrival between.place).mp (List.mem_map_of_mem member) with
          ⟨first, firstMember, spelled⟩
        rcases (induction text between place).mp reaches with ⟨second, secondMember, spelledOn⟩
        exact ⟨first ++ second, Language.append_mem_mul firstMember secondMember,
          spells_append_iff.mpr ⟨between.place, spelled, spelledOn⟩⟩
      · rintro ⟨word, member, spelled⟩
        rcases Language.mem_mul.mp member with ⟨first, firstMember, second, secondMember, rfl⟩
        rcases spells_append_iff.mp spelled with ⟨middle, spelled, spelledOn⟩
        rcases List.mem_map.mp
            ((listsFirst text arrival middle).mpr ⟨first, firstMember, spelled⟩) with
          ⟨between, member, rfl⟩
        exact ⟨between, member,
          (induction text between place).mpr ⟨second, secondMember, spelledOn⟩⟩

theorem lists_firstOf {exprs : List Expr} {languages : List WordLanguage}
    (nonempty : exprs ≠ [])
    (each : List.Forall₂ (fun expr words => expr.Lists same words) exprs languages) :
    (firstOf exprs).Lists same languages.sum := by
  intro text arrival place
  rw [reaches_firstOf_iff nonempty]
  clear nonempty
  induction each with
  | nil => simp [Language.notMem_zero]
  | @cons expr words exprs languages listsFirst listLater induction =>
      rw [List.exists_mem_cons_iff, induction, listsFirst text arrival place]
      simp only [List.sum_cons, Language.mem_add, or_and_right, exists_or]

/-- What lists words matches the whole of the texts that have the characters of one of them. -/
theorem Lists.reaches_size_iff {expr : Expr} {words : WordLanguage}
    (lists : expr.Lists same words) (text : Array Char) :
    expr.Reaches text ⟨0, []⟩ text.size ↔ ∃ word ∈ words, List.Forall₂ same word text.toList := by
  simp only [lists text ⟨0, []⟩ text.size, spells_size_iff (Nat.zero_le _), List.drop_zero]

end Expr

/-! ## Written expressions -/

/--
The written expression lists the words whatever comes before it, and changes nothing for what
follows but the number of groups.
-/
structure Ast.Lists (ast : Ast) (words : WordLanguage) : Prop where
  groupNames_eq : ast.groupNames = []
  exists_expr : ∀ context : Context, context.flags.unicode = true →
    ∃ expr groups, ast.expr context = .ok (expr, { context with groups }) ∧
      expr.Lists context.flags.Admits words

/-- The written expressions list the languages, one each. -/
abbrev AllList (items : List Ast) (languages : List WordLanguage) : Prop :=
  List.Forall₂ Ast.Lists items languages

variable {items : List Ast} {languages : List WordLanguage}

theorem AllList.groupNames_eq (all : AllList items languages) :
    Ast.groupNamesOfAll items = [] := by
  induction all with
  | nil => rfl
  | cons first later induction => rw [Ast.groupNamesOfAll, first.groupNames_eq, induction]; rfl

theorem AllList.exists_exprs (all : AllList items languages) (context : Context)
    (unicode : context.flags.unicode = true) :
    ∃ exprs groups, exprsOf context items = .ok (exprs, { context with groups }) ∧
      List.Forall₂ (fun expr words => expr.Lists context.flags.Admits words) exprs languages := by
  induction all generalizing context with
  | nil => exact ⟨[], context.groups, by rw [exprsOf], List.Forall₂.nil⟩
  | cons first later induction =>
      rcases first.exists_expr context unicode with ⟨expr, groups, expr_eq, lists⟩
      rcases induction { context with groups } unicode with ⟨exprs, others, exprs_eq, listLater⟩
      refine ⟨expr :: exprs, others, ?_, List.Forall₂.cons lists listLater⟩
      rw [exprsOf, expr_eq, Outcome.ok_bind]
      simp only
      rw [exprs_eq]
      rfl

namespace Ast

theorem lists_empty : empty.Lists 1 where
  groupNames_eq := by rw [groupNames]
  exists_expr context _ := ⟨.empty, context.groups, by rw [expr], Expr.lists_empty⟩

/-- The case closure of a character has the characters of which it is a variant. -/
theorem contains_foldIf_single_iff {flags : Flags} (unicode : flags.unicode = true)
    {written found : Char} :
    (foldIf flags (.single written)).contains found = true ↔ flags.Admits written found := by
  have contains_single : ∀ c, (CharSet.single written).contains c = true ↔ c = written := by
    intro c
    rw [CharSet.single, CharSet.contains, Bool.and_eq_true, decide_eq_true_iff, decide_eq_true_iff,
      ← Char.toNat_inj]
    omega
  rw [foldIf, Flags.Admits]
  cases caseInsensitive_eq : flags.caseInsensitive with
  | false => simp [contains_single, eq_comm]
  | true => simp [unicode, CharSet.contains, contains_single]

theorem lists_literal (c : Char) : (literal ⟨c, false⟩).Lists {[c]} where
  groupNames_eq := by rw [groupNames]
  exists_expr context unicode := by
    refine ⟨.chars (foldIf context.flags (.single c)), context.groups, ?_, ?_⟩
    · simp [expr, Literal.expr, unicode]
    · intro text arrival place
      rw [Expr.reaches_chars_iff]
      simp only [contains_foldIf_single_iff unicode]
      constructor
      · rintro ⟨place_eq, standing⟩
        exact ⟨[c], rfl, standing, place_eq⟩
      · rintro ⟨word, rfl, standing, place_eq⟩
        exact ⟨place_eq, standing⟩

theorem lists_concat (all : AllList items languages) : (concat items).Lists languages.prod where
  groupNames_eq := by rw [groupNames, all.groupNames_eq]
  exists_expr context unicode := by
    rcases all.exists_exprs context unicode with ⟨exprs, groups, exprs_eq, each⟩
    refine ⟨.sequence exprs, groups, ?_, Expr.lists_sequence each⟩
    rw [expr, exprs_eq]
    rfl

theorem lists_alternation (nonempty : items ≠ []) (all : AllList items languages) :
    (alternation items).Lists languages.sum where
  groupNames_eq := by rw [groupNames, all.groupNames_eq]
  exists_expr context unicode := by
    rcases all.exists_exprs context unicode with ⟨exprs, groups, exprs_eq, each⟩
    have nonempty : exprs ≠ [] := by
      rintro rfl
      cases each
      cases all
      exact nonempty rfl
    refine ⟨.firstOf exprs, groups, ?_, Expr.lists_firstOf nonempty each⟩
    rw [expr, exprs_eq]
    rfl

theorem lists_ofItems (all : AllList items languages) : (ofItems items).Lists languages.prod := by
  match all with
  | .nil => exact lists_empty
  | .cons first .nil =>
      rw [List.prod_singleton]
      exact first
  | .cons first (.cons second later) => exact lists_concat (.cons first (.cons second later))

theorem lists_ofBranches (nonempty : items ≠ []) (all : AllList items languages) :
    (ofBranches items).Lists languages.sum := by
  match all with
  | .nil => exact absurd rfl nonempty
  | .cons first .nil =>
      rw [List.sum_singleton]
      exact first
  | .cons first (.cons second later) =>
      exact lists_alternation nonempty (.cons first (.cons second later))

theorem Lists.group_numbered {body : Ast} {words : WordLanguage} (lists : body.Lists words) :
    (group .numbered body).Lists words where
  groupNames_eq := by
    rw [groupNames, lists.groupNames_eq]
    exact fun _ impossible => by cases impossible
  exists_expr context unicode := by
    rcases lists.exists_expr context.openGroup unicode with ⟨expr, groups, expr_eq, listed⟩
    refine ⟨.capture context.openGroup.groups expr, groups, ?_, ?_⟩
    · rw [Ast.expr, expr_eq]
      rfl
    · intro text arrival place
      rw [Expr.reaches_capture_iff]
      exact listed text arrival place

theorem Lists.group_uncaptured {body : Ast} {words : WordLanguage} (lists : body.Lists words) :
    (group (.uncaptured []) body).Lists words where
  groupNames_eq := by
    rw [groupNames, lists.groupNames_eq]
    exact fun _ impossible => by cases impossible
  exists_expr context unicode := by
    rcases lists.exists_expr context unicode with ⟨expr, groups, expr_eq, listed⟩
    refine ⟨expr, groups, ?_, listed⟩
    rw [Ast.expr, Flags.setAll, List.foldl_nil, expr_eq]
    rfl

end Ast

end PhraseRules.Regex
