import PhraseRules.Regex.Basic

/-!
# Searching with regular expressions

From a place in a text an expression leads to the places where a match of it can end.  They are
listed in order of preference, each once: what follows an expression depends only on the place
where the match ends, so of two ways to the same place the preferred one is all that matters.
-/

namespace PhraseRules.Regex

/-- A captured stretch of text. -/
structure Capture where
  number : Nat
  start : Nat
  stop : Nat
deriving DecidableEq, Repr

/-- A place that a match leads to, and what was captured on the way, latest first. -/
structure Arrival where
  place : Nat
  captures : List Capture
deriving DecidableEq, Repr

/-- The arrivals without those at a place that an earlier one reaches. -/
def firstArrivals : (seen : List Nat) → List Arrival → List Arrival
  | _, [] => []
  | seen, arrival :: later =>
      if seen.contains arrival.place then firstArrivals seen later
      else arrival :: firstArrivals (arrival.place :: seen) later

/-- From all arrivals to those that `next` leads to from there. -/
def arriveThrough (next : Arrival → List Arrival) (arrivals : List Arrival) : List Arrival :=
  firstArrivals [] (arrivals.flatMap next)

/-- The arrivals behind exactly `count` repetitions. -/
def repeatExactly (body : Arrival → List Arrival) : (count : Nat) → List Arrival → List Arrival
  | 0, arrivals => arrivals
  | count + 1, arrivals =>
      match arrivals with
      | [] => []
      | arrivals => repeatExactly body count (arriveThrough body arrivals)

/--
The arrivals behind at most `count` repetitions from one arrival.  `seen` holds the pairs of a place
and of the repetitions left that were met before; they lead nowhere new.
-/
def repeatAtMost (body : Arrival → List Arrival) (greedy : Bool) :
    (count : Nat) → (seen : List (Nat × Nat)) → Arrival → List Arrival × List (Nat × Nat)
  | 0, seen, arrival => ([arrival], seen)
  | count + 1, seen, arrival =>
      if seen.contains (count, arrival.place) then ([], seen)
      else
        let (onward, seen) := (body arrival).foldl
          (fun (found, seen) next =>
            let (more, seen) := repeatAtMost body greedy count seen next
            (found ++ more, seen))
          ([], (count, arrival.place) :: seen)
        (if greedy then onward ++ [arrival] else arrival :: onward, seen)

/--
The arrivals behind an arrival of one repetition when any number may follow.  A place of `unseen` is
used up when it is first reached, so `rounds` need not exceed their number.  At `origin`, where the
repetitions began, going on would repeat what is under way.
-/
def repeatOn (body : Arrival → List Arrival) (greedy : Bool) (origin : Nat) :
    (rounds : Nat) → (unseen : List Nat) → Arrival → List Arrival × List Nat
  | 0, unseen, _ => ([], unseen)
  | rounds + 1, unseen, arrival =>
      if unseen.contains arrival.place then
        let unseen := unseen.erase arrival.place
        let (onward, unseen) :=
          if arrival.place = origin then ([], unseen)
          else (body arrival).foldl
            (fun (found, unseen) next =>
              let (more, unseen) := repeatOn body greedy origin rounds unseen next
              (found ++ more, unseen))
            ([], unseen)
        (if greedy then onward ++ [arrival] else arrival :: onward, unseen)
      else
        ([], unseen)

/-- The arrivals behind one or more repetitions, in a text of `length` characters. -/
def repeatOneOrMore (body : Arrival → List Arrival) (greedy : Bool) (length : Nat)
    (arrival : Arrival) : List Arrival :=
  ((body arrival).foldl
    (fun (found, unseen) next =>
      let (more, unseen) := repeatOn body greedy arrival.place (length + 1) unseen next
      (found ++ more, unseen))
    ([], List.range (length + 1))).1

/-- The arrivals behind any number of repetitions, in a text of `length` characters. -/
def repeatFreely (body : Arrival → List Arrival) (greedy : Bool) (length : Nat)
    (arrival : Arrival) : List Arrival :=
  let onward := repeatOneOrMore body greedy length arrival
  firstArrivals [] (if greedy then onward ++ [arrival] else arrival :: onward)

/-- The arrivals behind a repetition with bounds, in a text of `length` characters.  Of the
repetitions that are not needed, more than there are characters bring nothing new. -/
def repeatBetween (body : Arrival → List Arrival) (least : Nat) (most : Option Nat) (greedy : Bool)
    (length : Nat) (arrival : Arrival) : List Arrival :=
  match most, least with
  | some most, least =>
      arriveThrough
        (fun reached => (repeatAtMost body greedy (min (most - least) (length + 1)) [] reached).1)
        (repeatExactly body least [arrival])
  | none, 0 => repeatFreely body greedy length arrival
  | none, least + 1 =>
      arriveThrough (repeatOneOrMore body greedy length) (repeatExactly body least [arrival])

/-- The character before a place. -/
def charBefore (text : Array Char) (place : Nat) : Option Char :=
  match place with
  | 0 => none
  | previous + 1 => text[previous]?

/-- The arrivals of an expression from an arrival on, preferred ones first. -/
def Expr.arrivals (text : Array Char) : Expr → Arrival → List Arrival
  | .empty, arrival => [arrival]
  | .chars set, arrival =>
      match text[arrival.place]? with
      | some c => if set.contains c then [{ arrival with place := arrival.place + 1 }] else []
      | none => []
  | .look condition, arrival =>
      if condition.holds (charBefore text arrival.place) text[arrival.place]? then [arrival] else []
  | .concat first second, arrival =>
      arriveThrough (second.arrivals text) (first.arrivals text arrival)
  | .choice left right, arrival =>
      firstArrivals [] (left.arrivals text arrival ++ right.arrivals text arrival)
  | .repetition body least most greedy, arrival =>
      repeatBetween (body.arrivals text) least most greedy text.size arrival
  | .capture number body, arrival =>
      (body.arrivals text arrival).map fun reached =>
        { reached with captures := ⟨number, arrival.place, reached.place⟩ :: reached.captures }

@[simp]
theorem Expr.arrivals_empty (text : Array Char) (arrival : Arrival) :
    Expr.empty.arrivals text arrival = [arrival] := by
  rw [Expr.arrivals]

/-- A match of an expression in a text. -/
structure Match where
  start : Nat
  stop : Nat
  captures : List Capture
deriving DecidableEq, Repr

/-- The preferred match that starts at a place. -/
def Expr.matchAt (expr : Expr) (text : Array Char) (start : Nat) : Option Match :=
  (expr.arrivals text ⟨start, []⟩).head?.map fun arrival =>
    ⟨start, arrival.place, arrival.captures⟩

/-- The first match that starts at one of `count` places from `start` on. -/
def Expr.findFrom (expr : Expr) (text : Array Char) : (count : Nat) → (start : Nat) → Option Match
  | 0, _ => none
  | count + 1, start =>
      match expr.matchAt text start with
      | some found => some found
      | none => expr.findFrom text count (start + 1)

/-- The first match that starts at `start` or behind it. -/
def Expr.find? (expr : Expr) (text : Array Char) (start : Nat) : Option Match :=
  expr.findFrom text (text.size + 1 - start) start

end PhraseRules.Regex
