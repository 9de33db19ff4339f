import PhraseRules.Proofs.Search.Farthest

/-!
# Ways through slots without groups

Without a table of features no slot belongs to a group, and a way through the slots is made of ways
through parts of them.  `Query.Passes.transfer` says that such a part may stand among other slots.
-/

namespace PhraseRules.Query

/-- Slots that belong to no group. -/
def ungrouped (slots : List Slot) : List (Slot × Option AgreementGroup) :=
  slots.map fun slot => (slot, none)

/-- There is a way through the slots, numbered from `index` on, from one node to another. -/
def Passes (query : Query) (positions : List Position) (slots : List Slot) (index : Nat)
    (node last : SearchNode) : Prop :=
  ∃ assignment, query.Fills positions (ungrouped slots) index node assignment last

/-- There is a way through the slots on which the first one, ready to be filled, is filled. -/
def PassesFilled (query : Query) (positions : List Position) (later : List Slot) (index : Nat)
    (slot : Slot) (node last : SearchNode) : Prop :=
  ∃ run, Lands positions (node.lastSlot.bind (query.slots[·]?)) node.allowance node.place
      run.start ∧
    query.Fits positions slot run ∧
      query.Passes positions later (index + 1)
        (nodeBehind index slot (slot.placementOf positions run) node node.session) last

variable {query : Query} {positions : List Position} {first second later : List Slot}
  {declared slot : Slot} {index : Nat} {node last : SearchNode} {start stop : Nat}

theorem slotsFrom_zero (noTable : query.table = none) :
    query.slotsFrom 0 = ungrouped query.slots := by
  rw [slotsFrom, groups, noTable, List.drop_zero, ungrouped]
  induction query.slots with
  | nil => rfl
  | cons slot later induction =>
      rw [List.length_cons, List.replicate_succ, List.zip_cons_cons, induction, List.map_cons]

theorem passes_nil_iff : query.Passes positions [] index node last ↔ last = node := by
  constructor
  · rintro ⟨assignment, fills⟩
    cases fills
    rfl
  · rintro rfl
    exact ⟨[], .done⟩

/-- A slot is passed by filling it or, if it is optional, by leaving it out. -/
theorem passes_cons_iff :
    query.Passes positions (declared :: later) index node last ↔
      ∃ slot, query.resolve index declared positions node.bindings = .ok (some slot) ∧
        (query.PassesFilled positions later index slot node last ∨
          slot.least = 0 ∧ query.Passes positions later (index + 1) node last) := by
  constructor
  · rintro ⟨assignment, fills⟩
    cases fills with
    | fill resolved lands fits extended left onward =>
        cases extended
        cases left
        exact ⟨_, resolved, Or.inl ⟨_, lands, fits, _, onward⟩⟩
    | leaveOut resolved optional left onward =>
        cases left
        exact ⟨_, resolved, Or.inr ⟨optional, _, onward⟩⟩
  · rintro ⟨slot, resolved, ⟨run, lands, fits, assignment, onward⟩ | ⟨optional, assignment, onward⟩⟩
    · exact ⟨some run :: assignment, .fill resolved lands fits rfl rfl onward⟩
    · exact ⟨none :: assignment, .leaveOut resolved optional rfl onward⟩

theorem passes_append_iff :
    query.Passes positions (first ++ second) index node last ↔
      ∃ mid, query.Passes positions first index node mid ∧
        query.Passes positions second (index + first.length) mid last := by
  induction first generalizing index node with
  | nil => simp [passes_nil_iff]
  | cons declared later induction =>
      have length_eq : index + (declared :: later).length = index + 1 + later.length := by
        rw [List.length_cons]
        omega
      rw [List.cons_append, passes_cons_iff, length_eq]
      simp only [passes_cons_iff, PassesFilled, induction]
      constructor
      · rintro ⟨slot, resolved, ⟨run, lands, fits, mid, before, behind⟩ |
          ⟨optional, mid, before, behind⟩⟩
        · exact ⟨mid, ⟨slot, resolved, Or.inl ⟨run, lands, fits, before⟩⟩, behind⟩
        · exact ⟨mid, ⟨slot, resolved, Or.inr ⟨optional, before⟩⟩, behind⟩
      · rintro ⟨mid, ⟨slot, resolved, ⟨run, lands, fits, before⟩ | ⟨optional, before⟩⟩, behind⟩
        · exact ⟨slot, resolved, Or.inl ⟨run, lands, fits, mid, before, behind⟩⟩
        · exact ⟨slot, resolved, Or.inr ⟨optional, mid, before, behind⟩⟩

theorem reaches_iff_passes (noTable : query.table = none) :
    query.Reaches positions start stop ↔
      ∃ last, query.Passes positions query.slots 0 (nodeAt start) last ∧
        start < last.place ∧ last.place = stop := by
  rw [Reaches]
  simp only [Meets, Leads, slotsFrom_zero noTable]
  constructor
  · rintro ⟨_, ⟨assignment, last, fills, less, rfl⟩, stop_eq⟩
    exact ⟨last, ⟨assignment, fills⟩, less, stop_eq⟩
  · rintro ⟨last, ⟨assignment, fills⟩, less, stop_eq⟩
    exact ⟨_, ⟨assignment, last, fills, less, rfl⟩, stop_eq⟩

/-! ## The same way with other slots around it -/

/-- The query for other slots. -/
abbrev withSlots (query : Query) (slots : List Slot) : Query :=
  { query with slots := slots }

/-- Nodes of queries for different slots from which the same runs may follow. -/
structure Alike (former latter : List Slot) (node other : SearchNode) : Prop where
  place_eq : node.place = other.place
  allowance_eq : node.allowance = other.allowance
  excepts_eq : ∀ position,
    (node.lastSlot.bind (former[·]?)).any (·.excepts .next position) =
      (other.lastSlot.bind (latter[·]?)).any (·.excepts .next position)

variable {former latter : List Slot} {other : SearchNode} {place : Nat}

theorem Alike.symm (alike : Alike former latter node other) : Alike latter former other node :=
  ⟨alike.place_eq.symm, alike.allowance_eq.symm, fun position => (alike.excepts_eq position).symm⟩

theorem Alike.lands (alike : Alike former latter node other)
    (lands : Lands positions (node.lastSlot.bind (former[·]?)) node.allowance node.place place) :
    Lands positions (other.lastSlot.bind (latter[·]?)) other.allowance other.place place := by
  rw [← alike.place_eq, ← alike.allowance_eq]
  refine ⟨lands.le_landing, lands.le_allowance, fun index position le_index le_place found => ?_⟩
  rw [← alike.excepts_eq]
  exact lands.unexcepted index position le_index le_place found

theorem alike_start (former latter : List Slot) (start : Nat) :
    Alike former latter (nodeAt start) (nodeAt start) :=
  ⟨rfl, rfl, fun _ => rfl⟩

theorem alike_nodeBehind {i j : Nat} {formerSlot latterSlot : Slot}
    (inFormer : former[i]? = some formerSlot) (inLatter : latter[j]? = some latterSlot)
    (same : formerSlot.exceptions = latterSlot.exceptions) (slot : Slot) (placement : Placement)
    (node other : SearchNode) :
    Alike former latter (nodeBehind i slot placement node node.session)
      (nodeBehind j slot placement other other.session) := by
  refine ⟨rfl, rfl, fun position => ?_⟩
  show (former[i]?).any _ = (latter[j]?).any _
  rw [inFormer, inLatter, Option.any_some, Option.any_some, Slot.excepts, Slot.excepts, same]

theorem cons_prefix_drop_iff {i : Nat} (slots : List Slot) :
    declared :: later <+: slots.drop i ↔
      slots[i]? = some declared ∧ later <+: slots.drop (i + 1) := by
  rw [← List.head?_drop, ← List.tail_drop]
  cases slots.drop i with
  | nil => simp
  | cons head tail => simp [List.cons_prefix_cons, eq_comm]

/--
A way through slots is one whatever slots stand around them, as long as the same runs may follow
where it begins.  If a slot refers to others, what was bound before has to be the same as well.
-/
theorem Passes.transfer {slots : List Slot} {i j : Nat} (inFormer : slots <+: former.drop i)
    (inLatter : slots <+: latter.drop j)
    (independent : i = j ∨ ∀ slot ∈ slots, slot.reference = none)
    (alike : Alike former latter node other) (same : i = j → node = other)
    (passes : (query.withSlots former).Passes positions slots i node last) :
    ∃ final, (query.withSlots latter).Passes positions slots j other final ∧
      Alike former latter last final ∧ (i = j → last = final) := by
  induction slots generalizing i j node other with
  | nil =>
      rcases passes_nil_iff.mp passes with rfl
      exact ⟨other, passes_nil_iff.mpr rfl, alike, same⟩
  | cons declared later induction =>
      rcases (cons_prefix_drop_iff former).mp inFormer with ⟨standsFormer, inFormer⟩
      rcases (cons_prefix_drop_iff latter).mp inLatter with ⟨standsLatter, inLatter⟩
      have independentLater : i + 1 = j + 1 ∨ ∀ slot ∈ later, slot.reference = none :=
        independent.imp (congrArg (· + 1)) fun none_refer slot member =>
          none_refer slot (List.mem_cons_of_mem _ member)
      obtain ⟨slot, resolved, way⟩ := passes_cons_iff.mp passes
      have resolvedOther : (query.withSlots latter).resolve j declared positions other.bindings =
          .ok (some slot) := by
        rcases independent with equal | none_refer
        · rw [← same equal, ← equal]
          exact resolved
        · have noReference := none_refer declared List.mem_cons_self
          rw [resolve_of_reference_eq_none noReference] at resolved ⊢
          exact resolved
      rcases way with ⟨run, lands, fits, onward⟩ | ⟨optional, onward⟩
      · have behindSame (equal : i + 1 = j + 1) :
            nodeBehind i slot (slot.placementOf positions run) node node.session =
              nodeBehind j slot (slot.placementOf positions run) other other.session := by
          rw [Nat.succ.inj equal, same (Nat.succ.inj equal)]
        obtain ⟨final, onwardOther, alikeLast, sameLast⟩ :=
          induction inFormer inLatter independentLater
            (alike_nodeBehind standsFormer standsLatter rfl slot _ node other) behindSame onward
        refine ⟨final, passes_cons_iff.mpr ⟨slot, resolvedOther, Or.inl ⟨run, alike.lands lands,
          fits.of_immunity rfl, onwardOther⟩⟩, alikeLast, ?_⟩
        exact fun equal => sameLast (congrArg (· + 1) equal)
      · obtain ⟨final, onwardOther, alikeLast, sameLast⟩ :=
          induction inFormer inLatter independentLater alike
            (fun equal => same (Nat.succ.inj equal)) onward
        refine ⟨final, passes_cons_iff.mpr ⟨slot, resolvedOther, Or.inr ⟨optional, onwardOther⟩⟩,
          alikeLast, ?_⟩
        exact fun equal => sameLast (congrArg (· + 1) equal)

end PhraseRules.Query
