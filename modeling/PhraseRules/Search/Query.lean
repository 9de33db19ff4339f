import PhraseRules.Agreement.Session

/-!
# Queries

A query is a sequence of slots to be looked for in sentences, with what the search depends on
besides the sentence.  The answers say which words were bound to which slots.
-/

namespace PhraseRules

/-- A word bound to a slot, with the numbers of the readings that fill it. -/
structure Binding where
  slot : Nat
  position : Nat
  readings : List Nat
deriving DecidableEq, Repr

/-- A stretch of a sentence, from `start` up to but not including `stop`, that fills the slots. -/
structure Occurrence where
  start : Nat
  stop : Nat
  bindings : List Binding
deriving DecidableEq, Repr

namespace Occurrence

/-- The words bound to a slot. -/
def bindingsOf (occurrence : Occurrence) (slot : Nat) : List Binding :=
  occurrence.bindings.filter (·.slot == slot)

/-- The positions bound to a slot. -/
def positionsOf (occurrence : Occurrence) (slot : Nat) : List Nat :=
  (occurrence.bindingsOf slot).map (·.position)

end Occurrence

/-- Whether protected words can fill slots. -/
inductive Immunity where
  | respected
  | ignored
deriving DecidableEq, Repr

/-- Why a search is broken off. -/
inductive SearchError where
  | synthesis (failure : SynthesisError)
  /-- The text of a slot that refers to another one cannot be formed. -/
  | reference (slot : Nat) (fault : PatternError)
  /-- The features of a slot are not defined. -/
  | agreement (slot : Nat) (fault : PatternError)
deriving DecidableEq, Repr

/-- The wording of a failure. -/
def SearchError.message : SearchError → String
  | .synthesis failure => failure.describe
  | .reference slot fault =>
      s!"no se pudo compilar el token referenciado {slot}: {fault.message}"
  | .agreement slot fault =>
      s!"unificación inválida en el token {slot}: {fault.message}"

/-- A run of neighbouring slots whose words agree. -/
structure AgreementGroup where
  first : Nat
  last : Nat
  agreement : Agreement
deriving DecidableEq, Repr

/-- Whether the slot belongs to the group. -/
def AgreementGroup.contains (group : AgreementGroup) (slot : Nat) : Bool :=
  group.first ≤ slot && slot ≤ group.last

/-- Whether the slot asks for agreement, or stands among slots that do. -/
def Slot.joinsAgreement (slot : Slot) : Bool :=
  slot.agreement.isSome || slot.neutral

/--
The group of each slot, where the slots are numbered from `index`.  The first slot of a run that
asks for agreement decides what the whole run agrees in; a run of neutral slots is no group.
-/
def groupsFrom (index : Nat) (slots : List Slot) : List (Option AgreementGroup) :=
  match slots with
  | [] => []
  | slot :: later =>
      if slot.joinsAgreement then
        let run := slot :: later.takeWhile Slot.joinsAgreement
        let group := (run.findSome? (·.agreement)).map fun agreement =>
          ⟨index, index + run.length - 1, agreement⟩
        List.replicate run.length group ++
          groupsFrom (index + run.length) (later.dropWhile Slot.joinsAgreement)
      else
        none :: groupsFrom (index + 1) later
termination_by slots.length
decreasing_by
  · exact Nat.lt_succ_of_le (List.dropWhile_sublist Slot.joinsAgreement).length_le
  · exact Nat.lt_succ_self _

/-- Slots to be looked for, with what the search depends on besides the sentence. -/
structure Query where
  slots : List Slot
  table : Option FeatureTable
  synthesizer : Option Synthesizer
  language : Language
  immunity : Immunity

namespace Query

/-- The group of each slot; without a table of features there are none. -/
def groups (query : Query) : List (Option AgreementGroup) :=
  match query.table with
  | some _ => groupsFrom 0 query.slots
  | none => List.replicate query.slots.length none

/-- Whether the position can fill the slot for this query. -/
def accepts (query : Query) (slot : Slot) (position : Position) : Bool :=
  !(query.immunity == .respected && position.immune) && slot.accepts position

/--
Whether what lies ahead depends only on the slot, the place, the words that may be skipped and the
slot bound last.  References and agreement depend on more.
-/
def isMemorable (query : Query) : Bool :=
  query.slots.all (·.reference.isNone) && query.groups.all Option.isNone

end Query

end PhraseRules
