import Mathlib.Order.Bounds.Basic
import PhraseRules.Proofs.Rule.Report
import PhraseRules.Proofs.Rendering

/-!
# Words that a rendering takes in

A rendering with the extent `Extent.following` leaves the first word of its slot as it is and takes
in words behind it.  `Rendering.StopsAt` says where they end, and `Rule.valuesOf_following` that the
value of the reference is then the stretch of the sentence from the first word of the slot up to
there, whether or not the words in it are bound.
-/

namespace PhraseRules

/-- The words from one place on and before another, with a space before each but the first that asks
for one. -/
def Sentence.textBetween (positions : List Position) (first stop : Nat) : String :=
  String.join ((List.range' first (stop - first)).map fun place =>
    let position := positions[place]?.getD default
    (if first < place ∧ position.spaceBefore = true then " " else "") ++ position.text)

namespace Sentence

variable {positions : List Position} {first stop : Nat}

theorem textBetween_eq (less : first < stop) :
    textBetween positions first stop =
      (positions[first]?.getD default).text ++
        String.join ((List.range' (first + 1) (stop - (first + 1))).map fun place =>
          (if (positions[place]?.getD default).spaceBefore then " " else "") ++
            (positions[place]?.getD default).text) := by
  have count_eq : stop - first = stop - (first + 1) + 1 := by omega
  have behind : ∀ place ∈ List.range' (first + 1) (stop - (first + 1)), first < place :=
    fun place member => (List.mem_range'_1.mp member).1
  rw [textBetween, count_eq, List.range'_succ, List.map_cons, String.join_cons]
  congr 1
  · simp
  · congr 1
    refine List.map_congr_left fun place member => ?_
    simp only [behind place member, true_and]

/-- The words that follow the first one are taken as they stand. -/
theorem textBetween_eq_textOfFollowing (less : first < stop) (stop_le : stop ≤ positions.length) :
    textBetween positions first stop =
      (positions[first]?.getD default).text ++ Rendering.textOfFollowing
        ((positions.drop (first + 1)).take (stop - (first + 1))) := by
  have words_eq : (positions.drop (first + 1)).take (stop - (first + 1)) =
      (List.range' (first + 1) (stop - (first + 1))).map fun place =>
        positions[place]?.getD default := by
    apply List.ext_getElem
    · simp
      omega
    · intro offset inside _
      rw [List.length_take, List.length_drop] at inside
      have within : first + 1 + offset < positions.length := by omega
      simp [List.getElem?_eq_getElem within]
  rw [textBetween_eq less, words_eq, Rendering.textOfFollowing, List.map_map]
  rfl

end Sentence

namespace Rendering

/-- The rendering names no last slot, or one without words. -/
def NamesNoWord (rendering : Rendering) (occurrence : Occurrence) : Prop :=
  ∀ number, rendering.lastSlot = some number → occurrence.positionsOf (number - 1) = []

/--
The words that a rendering of a slot takes in end before the place: behind those of the last slot
that it names; if it names no slot with words, where the first word of a later slot stands; and if
there is none, behind the words of the slot itself.
-/
inductive StopsAt (rendering : Rendering) (occurrence : Occurrence) (slot : Nat) : Nat → Prop where
  | named {number last : Nat} : rendering.lastSlot = some number →
      IsGreatest {place | place ∈ occurrence.positionsOf (number - 1)} last →
      StopsAt rendering occurrence slot (last + 1)
  | next {place : Nat} : rendering.NamesNoWord occurrence →
      IsLeast {place | ∃ later, slot < later ∧ place ∈ occurrence.positionsOf later} place →
      StopsAt rendering occurrence slot place
  | own {last : Nat} : rendering.NamesNoWord occurrence →
      (∀ later, slot < later → occurrence.positionsOf later = []) →
      IsGreatest {place | place ∈ occurrence.positionsOf slot} last →
      StopsAt rendering occurrence slot (last + 1)

/-- The words that follow are written behind the one that stands as it is. -/
theorem texts_of_following {rendering : Rendering} (follows : rendering.extent = .following)
    (unedited : rendering.substitution = none) (unchanged : rendering.conversion = .unchanged)
    {synthesizer : Option Synthesizer} {language : Language} {position : Position}
    {bound : List Reading} {following : List Position} :
    rendering.texts synthesizer language position bound following =
      .ok [position.text ++ textOfFollowing following] := by
  rw [texts_eq, heads_of_following follows, tail, follows, surface, unedited, unchanged]
  simp only [CaseConversion.apply_unchanged]
  rfl

theorem NamesNoWord.not_mem {rendering : Rendering} {occurrence : Occurrence} {number place : Nat}
    (unnamed : rendering.NamesNoWord occurrence) (names : rendering.lastSlot = some number) :
    place ∉ occurrence.positionsOf (number - 1) := by
  rw [unnamed number names]
  exact List.not_mem_nil

theorem not_isLeast_of_forall_eq_nil {occurrence : Occurrence} {slot place : Nat}
    (nothing : ∀ later, slot < later → occurrence.positionsOf later = []) :
    ¬IsLeast {place | ∃ later, slot < later ∧ place ∈ occurrence.positionsOf later} place := by
  rintro ⟨⟨later, behind, bound⟩, -⟩
  rw [nothing later behind] at bound
  cases bound

/-- They end before one place only. -/
theorem StopsAt.unique {rendering : Rendering} {occurrence : Occurrence} {slot stop other : Nat}
    (stops : rendering.StopsAt occurrence slot stop)
    (stopsOther : rendering.StopsAt occurrence slot other) : stop = other := by
  cases stops with
  | named names greatest =>
      cases stopsOther with
      | named namesOther greatestOther =>
          cases names.symm.trans namesOther
          rw [greatest.unique greatestOther]
      | next unnamed => exact absurd greatest.1 (unnamed.not_mem names)
      | own unnamed => exact absurd greatest.1 (unnamed.not_mem names)
  | next unnamed least =>
      cases stopsOther with
      | named names greatest => exact absurd greatest.1 (unnamed.not_mem names)
      | next _ leastOther => exact least.unique leastOther
      | own _ nothing => exact absurd least (not_isLeast_of_forall_eq_nil nothing)
  | own unnamed nothing greatest =>
      cases stopsOther with
      | named names greatest => exact absurd greatest.1 (unnamed.not_mem names)
      | next _ least => exact absurd least (not_isLeast_of_forall_eq_nil nothing)
      | own _ _ greatestOther => rw [greatest.unique greatestOther]

end Rendering

/-! ## Places in an occurrence -/

namespace Occurrence.ConsistsOf

variable {occurrence : Occurrence} {filled : List (Nat × Run)} {slot place : Nat}

theorem isGreatest_of_getLast? (consists : occurrence.ConsistsOf filled)
    (last : (occurrence.positionsOf slot).getLast? = some place) :
    IsGreatest {place | place ∈ occurrence.positionsOf slot} place := by
  rcases List.getLast?_eq_some_iff.mp last with ⟨before, positions_eq⟩
  have ordered := consists.pairwise_positionsOf slot
  rw [positions_eq] at ordered ⊢
  refine ⟨List.mem_append_right _ (List.mem_singleton_self _), fun other bound => ?_⟩
  rcases List.mem_append.mp bound with earlier | own
  · exact ((List.pairwise_append.mp ordered).2.2 other earlier place
      (List.mem_singleton_self _)).le
  · exact (List.mem_singleton.mp own).le

/-- The words of a slot are those from the first one on, as many as there are. -/
theorem exists_positionsOf_eq_of_isLeast (consists : occurrence.ConsistsOf filled)
    (begins : IsLeast {place | place ∈ occurrence.positionsOf slot} place) :
    ∃ more, occurrence.positionsOf slot = List.range' place (more + 1) := by
  rcases consists.exists_positionsOf_eq begins.1 with ⟨run, listed, positions_eq⟩
  obtain ⟨more, count_eq⟩ := Nat.exists_eq_add_of_lt (consists.nonempty _ listed)
  rw [Nat.zero_add] at count_eq
  have inside : place ∈ occurrence.positionsOf slot := begins.1
  have first_mem : run.start ∈ occurrence.positionsOf slot := by
    rw [positions_eq, count_eq, List.range'_succ]
    exact List.mem_cons_self
  rw [positions_eq, List.mem_range'_1] at inside
  have start_eq : run.start = place := Nat.le_antisymm inside.1 (begins.2 first_mem)
  exact ⟨more, by rw [positions_eq, start_eq, ← count_eq]⟩

end Occurrence.ConsistsOf

/-- A rendering names no slot before its own as the last one. -/
theorem RuleSpec.ChecksReferences.slot_le_lastSlot {spec : RuleSpec} {rule : Rule}
    (checks : spec.ChecksReferences rule) {rendering : Rendering} {number : Nat}
    (renders : rule.rendering? number = some rendering) :
    ∀ last, rendering.lastSlot = some last → number ≤ last := by
  intro last names
  obtain ⟨slot_eq, placed⟩ := checks.renderings _ (SortedMap.mem_of_find? renders)
  have slot_le := placed.slot_le
  rwa [slot_eq, names] at slot_le

namespace Rule

variable {rule : Rule} {sentence : Sentence} {synthesizer : Option Synthesizer}
  {language : Language} {start slot first last stop : Nat} {rest : List Nat}
  {occurrence : Occurrence} {rendering : Rendering} {filled : List (Nat × Run)}

theorem mem_positions_behind_iff {place : Nat} :
    place ∈ (occurrence.bindings.filter fun binding => decide (slot < binding.slot)).map
        (·.position) ↔
      ∃ later, slot < later ∧ place ∈ occurrence.positionsOf later := by
  simp only [List.mem_map, List.mem_filter, decide_eq_true_eq, Occurrence.positionsOf,
    Occurrence.bindingsOf, beq_iff_eq]
  constructor
  · rintro ⟨binding, ⟨member, behind⟩, rfl⟩
    exact ⟨binding.slot, behind, binding, ⟨member, rfl⟩, rfl⟩
  · rintro ⟨later, behind, binding, ⟨member, rfl⟩, rfl⟩
    exact ⟨binding, ⟨member, behind⟩, rfl⟩

/-- The words that a rendering takes in end where they should. -/
theorem stopsAt_extentEnd (consists : occurrence.ConsistsOf filled) (rendering : Rendering)
    (ends : (occurrence.positionsOf slot).getLast? = some last) :
    rendering.StopsAt occurrence slot (extentEnd rendering occurrence slot last) := by
  rw [extentEnd]
  dsimp only
  split
  case h_1 position named =>
      rcases Option.bind_eq_some_iff.mp named with ⟨number, names, found⟩
      exact .named names (consists.isGreatest_of_getLast? found)
  case h_2 unnamed =>
      have namesNoWord : rendering.NamesNoWord occurrence := fun number names =>
        List.getLast?_eq_none_iff.mp (Option.bind_eq_none_iff.mp unnamed number names)
      generalize behind_eq : ((occurrence.bindings.filter fun binding =>
        decide (slot < binding.slot)).map (·.position)).min? = behind
      cases behind with
      | none =>
          refine .own namesNoWord (fun later less => ?_) (consists.isGreatest_of_getLast? ends)
          rw [List.eq_nil_iff_forall_not_mem]
          intro place bound
          have member := mem_positions_behind_iff.mpr ⟨later, less, bound⟩
          rw [List.min?_eq_none_iff.mp behind_eq] at member
          cases member
      | some place =>
          obtain ⟨member, least⟩ := List.min?_eq_some_iff.mp behind_eq
          exact .next namesNoWord ⟨mem_positions_behind_iff.mp member, fun other bound =>
            least other (mem_positions_behind_iff.mpr bound)⟩

/-- They end behind the first word of the slot. -/
theorem lt_of_stopsAt (consists : occurrence.ConsistsOf filled)
    (le_lastSlot : ∀ number, rendering.lastSlot = some number → slot + 1 ≤ number)
    (begins : IsLeast {place | place ∈ occurrence.positionsOf slot} first)
    (stops : rendering.StopsAt occurrence slot stop) : first < stop := by
  cases stops with
  | @named number last names greatest =>
      have le := le_lastSlot number names
      rcases Nat.eq_or_lt_of_le (Nat.le_sub_one_of_lt le) with equal | behind
      · exact Nat.lt_succ_of_le (begins.2 (equal ▸ greatest.1))
      · exact Nat.lt_succ_of_lt (consists.place_lt_place behind begins.1 greatest.1)
  | next _ least =>
      rcases least.1 with ⟨later, behind, boundLater⟩
      exact consists.place_lt_place behind begins.1 boundLater
  | own _ _ greatest => exact Nat.lt_succ_of_le (greatest.2 begins.1)

/-! ## Values -/

theorem valuesOf_of_bound (rule : Rule) (synthesizer : Option Synthesizer) (language : Language)
    (sentence : Sentence) (bound : occurrence.positionsOf slot = first :: rest)
    (ends : (occurrence.positionsOf slot).getLast? = some last) :
    ∃ readings, rule.valuesOf synthesizer language sentence occurrence (slot + 1) =
      match rule.rendering? (slot + 1) with
      | none => .ok [textOfBound sentence.positions (first :: rest)]
      | some rendering =>
          (rendering.texts synthesizer language (sentence.positions[first]?.getD default) readings
            ((sentence.positions.drop (first + 1)).take
              (extentEnd rendering occurrence slot last - (first + 1)))).mapError .synthesis := by
  obtain ⟨binding, others, bindings_eq, rfl, -⟩ := List.map_eq_cons_iff.mp bound
  rw [valuesOf, bindings_eq, ends, bound]
  exact ⟨_, rfl⟩

/-- Behind written text each word has its space. -/
theorem foldl_textOfBound {positions : List Position} (places : List Nat) {written : String}
    (nonempty : written ≠ "") :
    places.foldl
        (fun written index =>
          let position := positions[index]?.getD default
          let space := if !written.isEmpty && position.spaceBefore then " " else ""
          written ++ space ++ position.text)
        written =
      written ++ String.join (places.map fun place =>
        (if (positions[place]?.getD default).spaceBefore then " " else "") ++
          (positions[place]?.getD default).text) := by
  induction places generalizing written with
  | nil => simp
  | cons place later induction =>
      have isEmpty_eq : written.isEmpty = false := by simpa using nonempty
      rw [List.foldl_cons, induction, List.map_cons, String.join_cons]
      · simp [isEmpty_eq, String.append_assoc]
      · simp [nonempty]

/-- The words of a run are written as they stand, unless the first one is empty. -/
theorem textOfBound_range' {positions : List Position} {count : Nat} (positive : 0 < count)
    (nonempty : (positions[first]?.getD default).text ≠ "") :
    textOfBound positions (List.range' first count) =
      Sentence.textBetween positions first (first + count) := by
  obtain ⟨more, rfl⟩ := Nat.exists_eq_add_of_lt positive
  rw [Sentence.textBetween_eq (by omega), Nat.zero_add, List.range'_succ, textOfBound,
    List.foldl_cons]
  have count_eq : first + (more + 1) - (first + 1) = more := by omega
  rw [count_eq]
  simpa using foldl_textOfBound (List.range' (first + 1) more) nonempty

/--
The value of a reference to a slot with words whose rendering takes in those that follow, without
editing them or changing their case: it is the only one, and the text of all words of the sentence
from the first one of the slot up to where the rendering stops.  Without a rendering the reference
has the same value, if the rendering names its own slot as the last one, and the first word is not
empty.
-/
theorem valuesOf_following {spec : RuleSpec} (compiled : spec.compile = .ok rule)
    (found : (rule.query synthesizer language rule.slots).occurrenceAt? sentence start =
      .ok (some occurrence))
    (renders : rule.rendering? (slot + 1) = some rendering)
    (follows : rendering.extent = .following) (unedited : rendering.substitution = none)
    (unchanged : rendering.conversion = .unchanged)
    (begins : IsLeast {place | place ∈ occurrence.positionsOf slot} first) :
    (∃ stop, (∀ place, rendering.StopsAt occurrence slot place ↔ place = stop) ∧
      first < stop ∧ stop ≤ sentence.length ∧
      rule.valuesOf synthesizer language sentence occurrence (slot + 1) =
        .ok [Sentence.textBetween sentence.positions first stop]) ∧
    (rendering.lastSlot = some (slot + 1) →
      (sentence.positions[first]?.getD default).text ≠ "" →
      ∀ plain : Rule, plain.rendering? (slot + 1) = none →
        plain.valuesOf synthesizer language sentence occurrence (slot + 1) =
          rule.valuesOf synthesizer language sentence occurrence (slot + 1)) := by
  obtain ⟨filled, consists, -⟩ := Query.exists_consistsOf_of_occurrenceAt? found
  obtain ⟨more, positions_eq⟩ := consists.exists_positionsOf_eq_of_isLeast begins
  have bound : occurrence.positionsOf slot = first :: List.range' (first + 1) more := by
    rw [positions_eq, List.range'_succ]
  have ends : (occurrence.positionsOf slot).getLast? = some (first + more) := by
    rw [positions_eq, List.range'_concat, List.getLast?_concat, Nat.one_mul]
  -- the rendering stops where the words end that it takes in
  have stops := stopsAt_extentEnd consists rendering ends
  have checks := RuleSpec.checksReferences_of_compile compiled
  have first_lt := lt_of_stopsAt consists (checks.slot_le_lastSlot renders) begins stops
  have reads := readsWithin compiled found
  have stop_le := reads.extents rendering slot _ (List.mem_of_getLast? ends)
  obtain ⟨readings, value_eq⟩ := rule.valuesOf_of_bound synthesizer language sentence bound ends
  rw [renders] at value_eq
  dsimp only at value_eq
  rw [rendering.texts_of_following follows unedited unchanged,
    ← Sentence.textBetween_eq_textOfFollowing first_lt stop_le] at value_eq
  refine ⟨⟨_, fun place => ⟨fun other => other.unique stops, fun equal => equal ▸ stops⟩, first_lt,
    stop_le, value_eq⟩, fun names nonempty plain unrendered => ?_⟩
  have greatest := consists.isGreatest_of_getLast? ends
  obtain ⟨_, plain_eq⟩ := plain.valuesOf_of_bound synthesizer language sentence bound ends
  rw [unrendered] at plain_eq
  rw [plain_eq, value_eq, stops.unique (.named names greatest), ← bound, positions_eq,
    textOfBound_range' (Nat.succ_pos more) nonempty]
  rfl

/-- One reference takes in a word that is skipped and those of the slots behind it; the words of the
repeated slot are the same with and without a rendering. -/
theorem valuesOf_following_of_skipped_word :
    ∃ rule plain,
      { RuleSpec.named "R" with
          slots := [{ SlotSpec.word "la" with skip := 1 }, { SlotSpec.word "casa" with most := 2 },
            { SlotSpec.word "roja" with least := 0 }]
          renderings := [{ Rendering.ofSlot 1 with extent := .following, lastSlot := some 3 },
            { Rendering.ofSlot 2 with extent := .following, lastSlot := some 2 }]
          }.compile = .ok rule ∧
      { RuleSpec.named "R" with
          slots := [{ SlotSpec.word "la" with skip := 1 }, { SlotSpec.word "casa" with most := 2 },
            { SlotSpec.word "roja" with least := 0 }]
          }.compile = .ok plain ∧
      ∃ occurrence,
        (rule.query none (.plain "es" "Español") rule.slots).occurrenceAt?
            (.ofWords ["la", "gran", "casa", "casa", "roja"]) 1 = .ok (some occurrence) ∧
          rule.valuesOf none (.plain "es" "Español")
            (.ofWords ["la", "gran", "casa", "casa", "roja"]) occurrence 1 =
              .ok ["la gran casa casa roja"] ∧
          rule.valuesOf none (.plain "es" "Español")
            (.ofWords ["la", "gran", "casa", "casa", "roja"]) occurrence 2 = .ok ["casa casa"] ∧
          plain.valuesOf none (.plain "es" "Español")
            (.ofWords ["la", "gran", "casa", "casa", "roja"]) occurrence 2 = .ok ["casa casa"] := by
  obtain ⟨rule, compiled, ⟨renders, rendersOwn⟩, found⟩ : ∃ rule,
      { RuleSpec.named "R" with
          slots := [{ SlotSpec.word "la" with skip := 1 }, { SlotSpec.word "casa" with most := 2 },
            { SlotSpec.word "roja" with least := 0 }]
          renderings := [{ Rendering.ofSlot 1 with extent := .following, lastSlot := some 3 },
            { Rendering.ofSlot 2 with extent := .following, lastSlot := some 2 }]
          }.compile = .ok rule ∧
      (rule.rendering? 1 = some
          { Rendering.ofSlot 1 with extent := .following, lastSlot := some 3 } ∧
        rule.rendering? 2 = some
          { Rendering.ofSlot 2 with extent := .following, lastSlot := some 2 }) ∧
      (rule.query none (.plain "es" "Español") rule.slots).occurrenceAt?
          (.ofWords ["la", "gran", "casa", "casa", "roja"]) 1 =
        .ok (some ⟨1, 6, [⟨0, 1, [0]⟩, ⟨1, 3, [0]⟩, ⟨1, 4, [0]⟩, ⟨2, 5, [0]⟩]⟩) := by
    apply Exists.intro
    refine ⟨?_, ?_⟩
    · simp only [RuleSpec.compile, RuleSpec.named, RuleSpec.templates, List.flatMap_cons,
        List.flatMap_nil, ofText_empty]
      rfl
    generalize rule_eq : Rule.mk _ _ _ _ _ _ _ _ _ _ _ = rule
    subst rule_eq
    refine ⟨⟨rfl, rfl⟩, ?_⟩
    rw [Query.occurrenceAt?_eq_offers]
    decide +kernel
  obtain ⟨plain, plainCompiled, unrendered⟩ : ∃ plain,
      { RuleSpec.named "R" with
          slots := [{ SlotSpec.word "la" with skip := 1 }, { SlotSpec.word "casa" with most := 2 },
            { SlotSpec.word "roja" with least := 0 }]
          }.compile = .ok plain ∧ plain.rendering? 2 = none := by
    apply Exists.intro
    constructor
    · simp only [RuleSpec.compile, RuleSpec.named, RuleSpec.templates, List.flatMap_cons,
        List.flatMap_nil, ofText_empty]
      rfl
    · rfl
  obtain ⟨⟨stop, stops_iff, -, -, value_eq⟩, -⟩ := valuesOf_following compiled found renders rfl rfl
    rfl ⟨List.mem_singleton_self 1, fun _ bound => (List.mem_singleton.mp bound).ge⟩
  obtain ⟨⟨stopOwn, ownStops_iff, -, -, ownValue_eq⟩, plain_eq⟩ := valuesOf_following compiled found
    rendersOwn rfl rfl rfl ⟨List.mem_cons_self, (by decide : ∀ place ∈ [3, 4], 3 ≤ place)⟩
  obtain rfl := (stops_iff 6).mp (.named rfl
    ⟨List.mem_singleton_self 5, fun _ bound => (List.mem_singleton.mp bound).le⟩)
  obtain rfl := (ownStops_iff 5).mp (.named rfl
    ⟨List.mem_cons_of_mem 3 (List.mem_singleton_self 4), (by decide : ∀ place ∈ [3, 4], place ≤ 4)⟩)
  have own_eq : rule.valuesOf none (.plain "es" "Español")
      (.ofWords ["la", "gran", "casa", "casa", "roja"])
      ⟨1, 6, [⟨0, 1, [0]⟩, ⟨1, 3, [0]⟩, ⟨1, 4, [0]⟩, ⟨2, 5, [0]⟩]⟩ 2 = .ok ["casa casa"] := by
    rw [ownValue_eq]
    decide +kernel
  refine ⟨rule, plain, compiled, plainCompiled, _, found, ?_, own_eq, ?_⟩
  · rw [value_eq]
    decide +kernel
  · rw [plain_eq rfl (by decide) plain unrendered, own_eq]

end Rule

end PhraseRules
