import PhraseRules.Regex.Compile

/-!
# Where matches end

From a place in a text an expression leads to the places where a match of it can end.  The lemmas of
this module say for the parts of an expression which places these are, without regard to preference
and captures, and `Regex.isMatch_iff` what a search for an expression finds.
-/

namespace PhraseRules.Regex

variable {text : Array Char} {arrival : Arrival} {place : Nat}

/-- The places of the arrivals. -/
def placesOf (arrivals : List Arrival) : List Nat :=
  arrivals.map Arrival.place

/-- Of the places that were not seen before, none is lost. -/
theorem mem_placesOf_firstArrivals_iff {seen : List Nat} {arrivals : List Arrival} :
    place ∈ placesOf (firstArrivals seen arrivals) ↔ place ∉ seen ∧ place ∈ placesOf arrivals := by
  induction arrivals generalizing seen with
  | nil => simp [placesOf, firstArrivals]
  | cons first later induction =>
      rw [firstArrivals]
      split
      case isTrue isSeen =>
          rw [List.contains_iff_mem] at isSeen
          rw [induction, placesOf, placesOf, List.map_cons, List.mem_cons]
          constructor
          · rintro ⟨unseen, member⟩
            exact ⟨unseen, Or.inr member⟩
          · rintro ⟨unseen, rfl | member⟩
            · exact absurd isSeen unseen
            · exact ⟨unseen, member⟩
      case isFalse unseen =>
          rw [List.contains_iff_mem] at unseen
          simp only [placesOf, List.map_cons, List.mem_cons] at induction ⊢
          rw [induction, List.mem_cons, not_or]
          constructor
          · rintro (rfl | ⟨⟨-, unseenPlace⟩, member⟩)
            · exact ⟨unseen, Or.inl rfl⟩
            · exact ⟨unseenPlace, Or.inr member⟩
          · rintro ⟨unseenPlace, equal | member⟩
            · exact Or.inl equal
            · by_cases equal : place = first.place
              · exact Or.inl equal
              · exact Or.inr ⟨⟨equal, unseenPlace⟩, member⟩

theorem mem_placesOf_arriveThrough_iff {next : Arrival → List Arrival}
    {arrivals : List Arrival} :
    place ∈ placesOf (arriveThrough next arrivals) ↔
      ∃ between ∈ arrivals, place ∈ placesOf (next between) := by
  rw [arriveThrough, mem_placesOf_firstArrivals_iff]
  simp only [placesOf, List.map_flatMap, List.mem_flatMap, List.not_mem_nil, not_false_eq_true,
    true_and]

/-! ## What every step keeps -/

/-- A step that starts where something holds leads only to where it holds. -/
def Keeps (kept : Arrival → Prop) (step : Arrival → List Arrival) : Prop :=
  ∀ arrival, kept arrival → ∀ next ∈ step arrival, kept next

section

variable {kept : Arrival → Prop} {body : Arrival → List Arrival} {arrivals : List Arrival}

theorem mem_of_mem_firstArrivals {seen : List Nat} {arrival : Arrival}
    (member : arrival ∈ firstArrivals seen arrivals) : arrival ∈ arrivals := by
  induction arrivals generalizing seen with
  | nil => cases member
  | cons first later induction =>
      rw [firstArrivals] at member
      split at member
      case isTrue => exact List.mem_cons_of_mem _ (induction member)
      case isFalse =>
          rcases List.mem_cons.mp member with rfl | member
          · exact List.mem_cons_self
          · exact List.mem_cons_of_mem _ (induction member)

theorem Keeps.arriveThrough (keeps : Keeps kept body)
    (all : ∀ arrival ∈ arrivals, kept arrival) :
    ∀ next ∈ arriveThrough body arrivals, kept next := by
  intro next member
  rcases List.mem_flatMap.mp (mem_of_mem_firstArrivals member) with ⟨arrival, among, member⟩
  exact keeps arrival (all arrival among) next member

theorem Keeps.repeatExactly (keeps : Keeps kept body) {count : Nat}
    (all : ∀ arrival ∈ arrivals, kept arrival) :
    ∀ next ∈ repeatExactly body count arrivals, kept next := by
  induction count generalizing arrivals with
  | zero => exact all
  | succ count induction =>
      cases arrivals with
      | nil => exact all
      | cons first later => exact induction (keeps.arriveThrough all)

/-- What is collected by a pass that carries something along. -/
theorem keeps_foldl {σ : Type} {step : σ → Arrival → List Arrival × σ}
    (keeps : ∀ state, Keeps kept fun arrival => (step state arrival).1)
    (all : ∀ arrival ∈ arrivals, kept arrival) {found : List Arrival} {state : σ}
    (before : ∀ arrival ∈ found, kept arrival) :
    ∀ next ∈ (arrivals.foldl
      (fun (found, state) next =>
        let (more, state) := step state next
        (found ++ more, state)) (found, state)).1, kept next := by
  induction arrivals generalizing found state with
  | nil => exact before
  | cons first later induction =>
      refine induction (fun arrival member => all arrival (List.mem_cons_of_mem _ member)) ?_
      intro arrival member
      rcases List.mem_append.mp member with member | member
      · exact before arrival member
      · exact keeps state first (all first List.mem_cons_self) arrival member

/-- Stopping at an arrival is kept with what comes of going on, whichever is preferred. -/
theorem keeps_onward {onward : List Arrival} {arrival : Arrival} {greedy : Bool}
    (here : kept arrival) (all : ∀ next ∈ onward, kept next) :
    ∀ next ∈ (if greedy then onward ++ [arrival] else arrival :: onward), kept next := by
  intro next member
  have cases : next ∈ onward ∨ next = arrival := by
    cases greedy with
    | false => exact (List.mem_cons.mp member).symm
    | true => simpa using member
  rcases cases with member | rfl
  · exact all next member
  · exact here

theorem Keeps.repeatAtMost (keeps : Keeps kept body) {greedy : Bool} {count : Nat}
    (seen : List (Nat × Nat)) :
    Keeps kept fun arrival => (repeatAtMost body greedy count seen arrival).1 := by
  induction count generalizing seen with
  | zero =>
      intro arrival here next member
      rcases List.mem_singleton.mp member with rfl
      exact here
  | succ count induction =>
      intro arrival here
      simp only [Regex.repeatAtMost]
      split
      case isTrue => exact fun _ impossible => absurd impossible List.not_mem_nil
      case isFalse =>
          refine keeps_onward here ?_
          exact keeps_foldl induction (keeps arrival here)
            fun _ impossible => absurd impossible List.not_mem_nil

theorem Keeps.repeatOn (keeps : Keeps kept body) {greedy : Bool} {origin rounds : Nat}
    (unseen : List Nat) :
    Keeps kept fun arrival => (repeatOn body greedy origin rounds unseen arrival).1 := by
  induction rounds generalizing unseen with
  | zero => exact fun _ _ _ impossible => absurd impossible List.not_mem_nil
  | succ rounds induction =>
      intro arrival here
      simp only [Regex.repeatOn]
      split
      case isTrue =>
          refine keeps_onward here ?_
          split
          case isTrue => exact fun _ impossible => absurd impossible List.not_mem_nil
          case isFalse =>
              exact keeps_foldl induction (keeps arrival here)
                fun _ impossible => absurd impossible List.not_mem_nil
      case isFalse => exact fun _ impossible => absurd impossible List.not_mem_nil

theorem Keeps.repeatOneOrMore (keeps : Keeps kept body) {greedy : Bool} {length : Nat} :
    Keeps kept (repeatOneOrMore body greedy length) := by
  intro arrival here
  have keepsOn : ∀ unseen, Keeps kept fun next =>
      (Regex.repeatOn body greedy arrival.place (length + 1) unseen next).1 :=
    fun unseen => keeps.repeatOn unseen
  exact keeps_foldl keepsOn (keeps arrival here)
    fun _ impossible => absurd impossible List.not_mem_nil

theorem Keeps.repeatBetween (keeps : Keeps kept body) {least : Nat} {most : Option Nat}
    {greedy : Bool} {length : Nat} :
    Keeps kept (repeatBetween body least most greedy length) := by
  intro arrival here
  have single : ∀ other ∈ [arrival], kept other := by
    intro other member
    rcases List.mem_singleton.mp member with rfl
    exact here
  cases most with
  | some most => exact Keeps.arriveThrough (keeps.repeatAtMost []) (keeps.repeatExactly single)
  | none =>
      cases least with
      | zero =>
          intro next member
          exact keeps_onward here (keeps.repeatOneOrMore arrival here) next
            (mem_of_mem_firstArrivals member)
      | succ least =>
          exact Keeps.arriveThrough keeps.repeatOneOrMore (keeps.repeatExactly single)

end

namespace Expr

/-- What holds of a place and stays true from character to character holds where matches from there
end. -/
theorem keeps_of_advance {kept : Nat → Prop}
    (advance : ∀ place, kept place → place < text.size → kept (place + 1)) (expr : Expr) :
    Keeps (fun arrival => kept arrival.place) (expr.arrivals text) := by
  induction expr with
  | empty =>
      intro arrival here next member
      rcases List.mem_singleton.mp member with rfl
      exact here
  | chars set =>
      intro arrival here next member
      rw [arrivals] at member
      split at member
      case h_1 c standing =>
          split at member
          case isTrue =>
              rcases List.mem_singleton.mp member with rfl
              exact advance _ here (Array.getElem?_eq_some_iff.mp standing).1
          case isFalse => cases member
      case h_2 => cases member
  | look condition =>
      intro arrival here next member
      rw [arrivals] at member
      split at member
      case isTrue =>
          rcases List.mem_singleton.mp member with rfl
          exact here
      case isFalse => cases member
  | concat first second inductionFirst inductionSecond =>
      intro arrival here
      exact inductionSecond.arriveThrough (inductionFirst arrival here)
  | choice left right inductionLeft inductionRight =>
      intro arrival here next member
      rcases List.mem_append.mp (mem_of_mem_firstArrivals member) with member | member
      · exact inductionLeft arrival here next member
      · exact inductionRight arrival here next member
  | repetition body least most greedy induction => exact induction.repeatBetween
  | capture number body induction =>
      intro arrival here next member
      rcases List.mem_map.mp member with ⟨reached, among, rfl⟩
      exact induction arrival here reached among

/-- Matches end within the text. -/
theorem keeps_place_le_size (expr : Expr) :
    Keeps (fun arrival => arrival.place ≤ text.size) (expr.arrivals text) := by
  have advance (place : Nat) : place ≤ text.size → place < text.size → place + 1 ≤ text.size :=
    fun _ inside => inside
  exact keeps_of_advance advance expr

/-- Matches do not end before they begin. -/
theorem keeps_le_place (expr : Expr) (least : Nat) :
    Keeps (fun arrival => least ≤ arrival.place) (expr.arrivals text) := by
  have advance (place : Nat) : least ≤ place → place < text.size → least ≤ place + 1 :=
    fun least_le _ => Nat.le_succ_of_le least_le
  exact keeps_of_advance advance expr

/-- A match of the expression leads from the arrival to the place. -/
def Reaches (expr : Expr) (text : Array Char) (arrival : Arrival) (place : Nat) : Prop :=
  place ∈ placesOf (expr.arrivals text arrival)

/-! ## Parts of expressions -/

theorem reaches_empty_iff : empty.Reaches text arrival place ↔ place = arrival.place := by
  simp [Reaches, placesOf]

theorem reaches_chars_iff {set : CharSet} :
    (chars set).Reaches text arrival place ↔
      place = arrival.place + 1 ∧ ∃ c, text[arrival.place]? = some c ∧ set.contains c = true := by
  rw [Reaches, arrivals]
  split
  case h_1 c standing =>
      split
      · next member => simp [placesOf, standing, member]
      · next member => simp [placesOf, standing, member]
  case h_2 beyond => simp [placesOf, beyond]

theorem reaches_look_iff {condition : Look} :
    (look condition).Reaches text arrival place ↔
      place = arrival.place ∧
        condition.holds (charBefore text arrival.place) text[arrival.place]? = true := by
  rw [Reaches, arrivals]
  split
  · next holds => simp [placesOf, holds]
  · next holds => simp [placesOf, holds]

theorem reaches_concat_iff {first second : Expr} :
    (concat first second).Reaches text arrival place ↔
      ∃ between ∈ first.arrivals text arrival, second.Reaches text between place := by
  rw [Reaches, arrivals, mem_placesOf_arriveThrough_iff]
  rfl

theorem reaches_choice_iff {left right : Expr} :
    (choice left right).Reaches text arrival place ↔
      left.Reaches text arrival place ∨ right.Reaches text arrival place := by
  rw [Reaches, arrivals, mem_placesOf_firstArrivals_iff]
  simp [Reaches, placesOf]

theorem reaches_capture_iff {number : Nat} {body : Expr} :
    (capture number body).Reaches text arrival place ↔ body.Reaches text arrival place := by
  rw [Reaches, arrivals]
  simp [Reaches, placesOf]

/-- An expression in front of others leads on from where its matches end. -/
theorem reaches_sequence_cons_iff {first : Expr} {later : List Expr} :
    (sequence (first :: later)).Reaches text arrival place ↔
      ∃ between ∈ first.arrivals text arrival, (sequence later).Reaches text between place := by
  cases later with
  | nil =>
      simp only [sequence, reaches_empty_iff]
      simp [Reaches, placesOf, eq_comm]
  | cons second later => rw [sequence, reaches_concat_iff]; simp

theorem reaches_sequence_empty_cons_iff {later : List Expr} :
    (sequence (.empty :: later)).Reaches text arrival place ↔
      (sequence later).Reaches text arrival place := by
  rw [reaches_sequence_cons_iff, arrivals]
  simp

theorem reaches_firstOf_iff {branches : List Expr} (nonempty : branches ≠ []) :
    (firstOf branches).Reaches text arrival place ↔
      ∃ branch ∈ branches, branch.Reaches text arrival place := by
  induction branches with
  | nil => exact absurd rfl nonempty
  | cons first later induction =>
      cases later with
      | nil => simp [firstOf]
      | cons second later =>
          rw [firstOf, reaches_choice_iff, induction (List.cons_ne_nil _ _)]
          · simp
          · simp

/-! ## Searches -/

theorem exists_matchAt_iff {expr : Expr} {start : Nat} :
    (∃ found, expr.matchAt text start = some found) ↔
      ∃ place, expr.Reaches text ⟨start, []⟩ place := by
  rw [matchAt]
  cases arrivals_eq : expr.arrivals text ⟨start, []⟩ with
  | nil => simp [Reaches, placesOf, arrivals_eq]
  | cons first later => simp [Reaches, placesOf, arrivals_eq]

theorem isSome_findFrom_iff {expr : Expr} {count start : Nat} :
    (expr.findFrom text count start).isSome = true ↔
      ∃ offset < count, ∃ place, expr.Reaches text ⟨start + offset, []⟩ place := by
  induction count generalizing start with
  | zero => simp [findFrom]
  | succ count induction =>
      rw [findFrom]
      split
      case h_1 found found_eq =>
          have reaches := exists_matchAt_iff.mp ⟨found, found_eq⟩
          exact iff_of_true rfl ⟨0, Nat.succ_pos _, reaches⟩
      case h_2 none_eq =>
          have nothing : ¬∃ place, expr.Reaches text ⟨start, []⟩ place := by
            rw [← exists_matchAt_iff]
            rintro ⟨found, found_eq⟩
            cases none_eq.symm.trans found_eq
          rw [induction]
          constructor
          · rintro ⟨offset, less, reaches⟩
            exact ⟨offset + 1, Nat.succ_lt_succ less, by rwa [Nat.add_right_comm] at reaches⟩
          · rintro ⟨offset, less, reaches⟩
            cases offset with
            | zero => exact absurd reaches nothing
            | succ offset =>
                exact ⟨offset, Nat.lt_of_succ_lt_succ less, by rwa [Nat.add_right_comm]⟩

end Expr

/-- A search finds a match if one begins anywhere in the text. -/
theorem isMatch_iff {regex : Regex} {text : String} :
    regex.isMatch text = true ↔
      ∃ start ≤ text.toList.length, ∃ place,
        regex.expr.Reaches text.toList.toArray ⟨start, []⟩ place := by
  rw [isMatch, Expr.find?, Expr.isSome_findFrom_iff]
  simp only [List.size_toArray, Nat.sub_zero, Nat.lt_succ_iff, Nat.zero_add]

end PhraseRules.Regex
