import PhraseRules.Proofs.Search.Ways

/-!
# Optional slots

A slot that may be left out is a choice between filling it and doing without it.  For queries
without a table of features `Query.occurrenceAt?_optional` compares the answers of a query with such
a slot, of the query in which the slot must be filled, and of the query without it.  The choice has
a limit: a slot whose reference cannot be replaced can be neither filled nor left out.
-/

namespace PhraseRules

/-! ## The slot that must be filled -/

/-- The slot, not to be left out. -/
def Slot.required (slot : Slot) : Slot :=
  { slot with least := 1 }

namespace Query

@[simp]
theorem accepts_required (query : Query) (slot : Slot) (position : Position) :
    query.accepts slot.required position = query.accepts slot position := by
  cases slot
  simp only [accepts, Slot.required, Slot.accepts]

variable {query : Query} {positions : List Position} {declared slot : Slot} {index : Nat}
  {last : SearchNode} {start stop : Nat}

theorem resolve_required {bindings : List Binding} :
    query.resolve index declared.required positions bindings =
      (query.resolve index declared positions bindings).map (Option.map Slot.required) :=
  resolve_map Slot.required rfl rfl fun _ => rfl

theorem least_of_resolve {bindings : List Binding}
    (resolved : query.resolve index declared positions bindings = .ok (some slot)) :
    slot.least = declared.least := by
  rcases eq_of_resolve_eq_ok resolved with rfl | ⟨text, rfl⟩ <;> rfl

theorem resolve_required_eq_ok_iff {bindings : List Binding} :
    query.resolve index declared.required positions bindings = .ok (some slot) ↔
      ∃ optional, query.resolve index declared positions bindings = .ok (some optional) ∧
        slot = optional.required := by
  rw [resolve_required]
  cases query.resolve index declared positions bindings with
  | error fault => simp [Except.map]
  | ok resolved? =>
      cases resolved? with
      | none => simp [Except.map]
      | some optional => simp [Except.map, eq_comm]

theorem fits_required_iff (optional : slot.least = 0) {run : Run} :
    query.Fits positions slot.required run ↔ query.Fits positions slot run := by
  have least_eq : max 1 slot.required.least = max 1 slot.least := by
    rw [optional]
    rfl
  constructor
  · intro fits
    exact ⟨⟨least_eq ▸ fits.least_le, fits.le_most, by simpa using fits.accepted⟩, fits.unexcepted⟩
  · intro fits
    exact ⟨⟨least_eq ▸ fits.least_le, fits.le_most, by simpa using fits.accepted⟩, fits.unexcepted⟩

/-! ## Leaving out the slot -/

variable {before behind : List Slot} {mid : SearchNode}

theorem prefix_before (tail : List Slot) : before <+: (before ++ tail).drop 0 := by
  rw [List.drop_zero]
  exact List.prefix_append before tail

theorem prefix_behind (declared : Slot) :
    behind <+: (before ++ declared :: behind).drop (before.length + 1) := by
  simp

theorem getElem?_between (declared : Slot) :
    (before ++ declared :: behind)[before.length]? = some declared := by
  simp

/-- The way up to a slot does not depend on that slot and those behind it. -/
theorem Passes.upTo {tail : List Slot} (others : List Slot)
    (passes : (query.withSlots (before ++ tail)).Passes positions before 0 (nodeAt start) mid) :
    (query.withSlots (before ++ others)).Passes positions before 0 (nodeAt start) mid ∧
      Alike (before ++ tail) (before ++ others) mid mid := by
  obtain ⟨final, passesOther, alike, same⟩ := passes.transfer (prefix_before tail)
    (prefix_before others) (Or.inl rfl) (alike_start _ _ start) (fun _ => rfl)
  rcases same rfl with rfl
  exact ⟨passesOther, alike⟩

theorem passesFilled_required_iff (optional : slot.least = 0)
    (alike : Alike (before ++ declared :: behind) (before ++ declared.required :: behind) mid mid) :
    (query.withSlots (before ++ declared :: behind)).PassesFilled positions behind before.length
        slot mid last ↔
      (query.withSlots (before ++ declared.required :: behind)).PassesFilled positions behind
        before.length slot.required mid last := by
  have alikeBehind (run : Run) :
      Alike (before ++ declared :: behind) (before ++ declared.required :: behind)
        (nodeBehind before.length slot (slot.placementOf positions run) mid mid.session)
        (nodeBehind before.length slot (slot.placementOf positions run) mid mid.session) :=
    alike_nodeBehind (getElem?_between declared) (getElem?_between declared.required) rfl slot _ mid
      mid
  constructor
  · rintro ⟨run, lands, fits, onward⟩
    obtain ⟨final, onwardOther, -, same⟩ := Passes.transfer (prefix_behind declared)
      (prefix_behind declared.required) (Or.inl rfl) (alikeBehind run) (fun _ => rfl) onward
    rcases same rfl with rfl
    exact ⟨run, alike.lands lands, (fits_required_iff optional).mpr (fits.of_immunity rfl),
      onwardOther⟩
  · rintro ⟨run, lands, fits, onward⟩
    obtain ⟨final, onwardOther, -, same⟩ := Passes.transfer (prefix_behind declared.required)
      (prefix_behind declared) (Or.inl rfl) (alikeBehind run).symm (fun _ => rfl) onward
    rcases same rfl with rfl
    exact ⟨run, alike.symm.lands lands, ((fits_required_iff optional).mp fits).of_immunity rfl,
      onwardOther⟩

/--
An occurrence without the slot ends at the place, and where the slot is missing its reference could
be replaced.
-/
def LeavesOut (query : Query) (positions : List Position) (start : Nat) (before : List Slot)
    (optional : Slot) (behind : List Slot) (stop : Nat) : Prop :=
  ∃ mid last slot,
    (query.withSlots (before ++ behind)).Passes positions before 0 (nodeAt start) mid ∧
      query.resolve before.length optional positions mid.bindings = .ok (some slot) ∧
        (query.withSlots (before ++ behind)).Passes positions behind before.length mid last ∧
          start < last.place ∧ last.place = stop

theorem reaches_append_iff {tail : List Slot} (noTable : query.table = none) :
    (query.withSlots (before ++ tail)).Reaches positions start stop ↔
      ∃ mid last,
        (query.withSlots (before ++ tail)).Passes positions before 0 (nodeAt start) mid ∧
          (query.withSlots (before ++ tail)).Passes positions tail before.length mid last ∧
            start < last.place ∧ last.place = stop := by
  have noTableHere : (query.withSlots (before ++ tail)).table = none := noTable
  rw [reaches_iff_passes noTableHere]
  simp only [passes_append_iff, Nat.zero_add]
  constructor
  · rintro ⟨last, ⟨mid, passesBefore, passesTail⟩, ends⟩
    exact ⟨mid, last, passesBefore, passesTail, ends⟩
  · rintro ⟨mid, last, passesBefore, passesTail, ends⟩
    exact ⟨last, ⟨mid, passesBefore, passesTail⟩, ends⟩

variable {optional : Slot}

theorem reaches_required_iff (noTable : query.table = none) (leastZero : optional.least = 0) :
    (query.withSlots (before ++ optional.required :: behind)).Reaches positions start stop ↔
      ∃ mid last slot,
        (query.withSlots (before ++ optional :: behind)).Passes positions before 0 (nodeAt start)
            mid ∧
          query.resolve before.length optional positions mid.bindings = .ok (some slot) ∧
            (query.withSlots (before ++ optional :: behind)).PassesFilled positions behind
                before.length slot mid last ∧
              start < last.place ∧ last.place = stop := by
  rw [reaches_append_iff noTable]
  constructor
  · rintro ⟨mid, last, passesBefore, passesRest, ends⟩
    obtain ⟨passesBefore, alike⟩ := passesBefore.upTo (optional :: behind)
    obtain ⟨filled, filledResolved, way⟩ := passes_cons_iff.mp passesRest
    obtain ⟨slot, resolved, rfl⟩ := resolve_required_eq_ok_iff.mp filledResolved
    rcases way with way | ⟨impossible, -⟩
    · have optionalHere := (least_of_resolve resolved).trans leastZero
      exact ⟨mid, last, slot, passesBefore, resolved,
        (passesFilled_required_iff optionalHere alike.symm).mpr way, ends⟩
    · exact absurd impossible Nat.one_ne_zero
  · rintro ⟨mid, last, slot, passesBefore, resolved, way, ends⟩
    obtain ⟨passesBefore, alike⟩ := passesBefore.upTo (optional.required :: behind)
    have optionalHere := (least_of_resolve resolved).trans leastZero
    refine ⟨mid, last, passesBefore, passes_cons_iff.mpr ⟨slot.required, ?_, Or.inl ?_⟩, ends⟩
    · exact resolve_required_eq_ok_iff.mpr ⟨slot, resolved, rfl⟩
    · exact (passesFilled_required_iff optionalHere alike).mp way

/-- A slot that may be left out is filled as if it might not, or it is left out. -/
theorem reaches_optional_iff (noTable : query.table = none) (leastZero : optional.least = 0)
    (noReferences : ∀ slot ∈ behind, slot.reference = none) :
    (query.withSlots (before ++ optional :: behind)).Reaches positions start stop ↔
      (query.withSlots (before ++ optional.required :: behind)).Reaches positions start stop ∨
        query.LeavesOut positions start before optional behind stop := by
  have behind_shifted : before.length + 1 ≠ before.length := by omega
  have prefix_without : behind <+: (before ++ behind).drop before.length := by simp
  rw [reaches_append_iff noTable, reaches_required_iff noTable leastZero]
  constructor
  · rintro ⟨mid, last, passesBefore, passesRest, ends⟩
    obtain ⟨slot, resolved, way | ⟨-, onward⟩⟩ := passes_cons_iff.mp passesRest
    · exact Or.inl ⟨mid, last, slot, passesBefore, resolved, way, ends⟩
    · obtain ⟨passesWithout, alike⟩ := passesBefore.upTo behind
      obtain ⟨final, onwardWithout, alikeLast, -⟩ := onward.transfer (prefix_behind optional)
        prefix_without (Or.inr noReferences) alike (fun equal => absurd equal behind_shifted)
      rw [alikeLast.place_eq] at ends
      exact Or.inr ⟨mid, final, slot, passesWithout, resolved, onwardWithout, ends⟩
  · rintro (⟨mid, last, slot, passesBefore, resolved, way, ends⟩ |
      ⟨mid, last, slot, passesWithout, resolved, onwardWithout, ends⟩)
    · exact ⟨mid, last, passesBefore, passes_cons_iff.mpr ⟨slot, resolved, Or.inl way⟩, ends⟩
    · obtain ⟨passesBefore, alike⟩ := passesWithout.upTo (optional :: behind)
      obtain ⟨final, onward, alikeLast, -⟩ := onwardWithout.transfer prefix_without
        (prefix_behind optional) (Or.inr noReferences) alike
        (fun equal => absurd equal.symm behind_shifted)
      rw [alikeLast.place_eq] at ends
      have optionalHere := (least_of_resolve resolved).trans leastZero
      exact ⟨mid, final, passesBefore,
        passes_cons_iff.mpr ⟨slot, resolved, Or.inr ⟨optionalHere, onward⟩⟩, ends⟩

/-- If its reference can be replaced, the slot can be left out of every occurrence without it. -/
theorem leavesOut_iff_reaches (noTable : query.table = none)
    (resolvable : ∀ mid,
      (query.withSlots (before ++ behind)).Passes positions before 0 (nodeAt start) mid →
        ∃ slot, query.resolve before.length optional positions mid.bindings = .ok (some slot)) :
    query.LeavesOut positions start before optional behind stop ↔
      (query.withSlots (before ++ behind)).Reaches positions start stop := by
  rw [reaches_append_iff noTable]
  constructor
  · rintro ⟨mid, last, slot, passesBefore, -, onward, ends⟩
    exact ⟨mid, last, passesBefore, onward, ends⟩
  · rintro ⟨mid, last, passesBefore, onward, ends⟩
    rcases resolvable mid passesBefore with ⟨slot, resolved⟩
    exact ⟨mid, last, slot, passesBefore, resolved, onward, ends⟩

/--
The answers of three queries without a table of features: one with an optional slot, one in which
that slot must be filled, and one without it.  The first reaches as far as the second or as an
occurrence that leaves the slot out.  If the reference of the slot can be replaced wherever the
slots before it end, these are the occurrences of the third.
-/
theorem occurrenceAt?_optional (noTable : query.table = none) {before behind : List Slot}
    {optional : Slot} (leastZero : optional.least = 0)
    (noReferences : ∀ slot ∈ behind, slot.reference = none) {sentence : Sentence}
    {both present absent : Option Occurrence}
    (bothAnswered :
      (query.withSlots (before ++ optional :: behind)).occurrenceAt? sentence start = .ok both)
    (presentAnswered :
      (query.withSlots (before ++ optional.required :: behind)).occurrenceAt? sentence start =
        .ok present)
    (absentAnswered :
      (query.withSlots (before ++ behind)).occurrenceAt? sentence start = .ok absent) :
    IsFarthestOf (fun stop => present.map (·.stop) = some stop ∨
        query.LeavesOut sentence.positions start before optional behind stop) both ∧
      ((∀ mid, (query.withSlots (before ++ behind)).Passes sentence.positions before 0
            (nodeAt start) mid →
          ∃ slot, query.resolve before.length optional sentence.positions mid.bindings =
            .ok (some slot)) →
        (both.isSome ↔ present.isSome ∨ absent.isSome) ∧
          both.map (·.stop) = max (present.map (·.stop)) (absent.map (·.stop))) := by
  have presentFarthest := isFarthestOf_reaches presentAnswered
  have absentFarthest := isFarthestOf_reaches absentAnswered
  have bothFarthest := (isFarthestOf_reaches bothAnswered).congr fun stop =>
    reaches_optional_iff noTable leastZero noReferences
  refine ⟨bothFarthest.or_of_left presentFarthest, fun resolvable => ?_⟩
  have stop_eq := (bothFarthest.congr fun stop => or_congr_right
    (leavesOut_iff_reaches noTable resolvable)).map_stop_eq_max presentFarthest absentFarthest
  refine ⟨?_, stop_eq⟩
  rw [← Option.isSome_map (f := (·.stop)), stop_eq]
  simp

/-- A word may be followed by itself.  Here it is not, and the last slot follows at once. -/
theorem occurrenceAt?_optional_of_repeated_word :
    ∃ before optional behind : Slot,
      [{ SlotSpec.word "el" with caseSensitive := true },
        { SlotSpec.word "\\1" with
          caseSensitive := true, least := 0, reference := some (.ofSlot 1) },
        { SlotSpec.word "fin" with caseSensitive := true }].mapM SlotSpec.compile =
          .ok [before, optional, behind] ∧
      let query : Query := ⟨[], none, none, .plain "en" "English", .respected⟩
      let sentence : Sentence := .ofWords ["el", "fin"]
      let both : Option Occurrence := some ⟨1, 3, [⟨0, 1, [0]⟩, ⟨2, 2, [0]⟩]⟩
      let absent : Option Occurrence := some ⟨1, 3, [⟨0, 1, [0]⟩, ⟨1, 2, [0]⟩]⟩
      (query.withSlots ([before] ++ optional :: [behind])).occurrenceAt? sentence 1 = .ok both ∧
        (query.withSlots ([before] ++ optional.required :: [behind])).occurrenceAt? sentence 1 =
            .ok none ∧
          (query.withSlots ([before] ++ [behind])).occurrenceAt? sentence 1 = .ok absent ∧
            IsFarthestOf (fun stop => none = some stop ∨
              query.LeavesOut sentence.positions 1 [before] optional [behind] stop) both ∧
              both.map (·.stop) = max none (absent.map (·.stop)) := by
  refine ⟨_, _, _, rfl, ?_⟩
  intro query sentence both absent
  refine ⟨?both, ?present, ?absent,
    (occurrenceAt?_optional rfl rfl ?noReferences ?both ?present ?absent).1,
    ((occurrenceAt?_optional rfl rfl ?noReferences ?both ?present ?absent).2 ?resolvable).2⟩
  case both =>
      rw [occurrenceAt?_eq_offers]
      decide +kernel
  case present =>
      rw [occurrenceAt?_eq_offers]
      decide +kernel
  case absent =>
      rw [occurrenceAt?_eq_offers]
      decide +kernel
  case noReferences =>
      intro slot member
      rw [List.mem_singleton.mp member]
      rfl
  case resolvable =>
      intro mid passes
      obtain ⟨slot, resolved, ⟨⟨place, count⟩, lands, fits, onward⟩ | ⟨impossible, -⟩⟩ :=
        passes_cons_iff.mp passes
      · obtain rfl := Option.some.inj (Except.ok.inj resolved)
        obtain rfl : place = 1 := lands_start_iff.mp lands
        obtain rfl : count = 1 := Nat.le_antisymm (fits.le_most 1 rfl) fits.least_le
        rcases passes_nil_iff.mp onward with rfl
        exact Outcome.exists_eq_ok_some_of_isSome (by decide +kernel)
      · obtain rfl := Option.some.inj (Except.ok.inj resolved)
        cases impossible

/-- A slot that refers to a word that is missing can be neither filled nor left out. -/
theorem not_optional_of_missing_word :
    ∃ before optional behind : Slot,
      [{ SlotSpec.word "a" with caseSensitive := true, least := 0 },
        { SlotSpec.word "\\1" with
          caseSensitive := true, least := 0, reference := some (.ofSlot 1) },
        { SlotSpec.word "b" with caseSensitive := true }].mapM SlotSpec.compile =
          .ok [before, optional, behind] ∧
      let query : Query := ⟨[], none, none, .plain "en" "English", .respected⟩
      optional.least = 0 ∧ behind.reference = none ∧
        (query.withSlots ([before] ++ optional :: [behind])).occurrenceAt? (.ofWords ["b"]) 1 =
            .ok none ∧
          (query.withSlots ([before] ++ optional.required :: [behind])).occurrenceAt?
              (.ofWords ["b"]) 1 = .ok none ∧
            (query.withSlots ([before] ++ [behind])).occurrenceAt? (.ofWords ["b"]) 1 =
              .ok (some ⟨1, 2, [⟨1, 1, [0]⟩]⟩) := by
  refine ⟨_, _, _, rfl, rfl, rfl, ?both, ?present, ?absent⟩
  all_goals
    rw [occurrenceAt?_eq_offers]
    decide +kernel

end Query

end PhraseRules
