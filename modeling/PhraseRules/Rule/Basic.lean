import PhraseRules.Agreement.Table
import PhraseRules.Rule.Template

/-!
# Rules

A rule is a pattern of slots that should not occur in a sentence, with the message to report and the
corrections to suggest where it does.  Antipatterns are the occurrences that are no errors.
-/

namespace PhraseRules

/-- What is wrong with the description of a rule. -/
inductive RuleError where
  | slot (rule : String) (index : Nat) (fault : PatternError)
  | antipattern (rule : String) (number index : Nat) (fault : PatternError)
  | template (rule : String) (fault : PatternError)
  | emptyPattern (rule : String)
deriving DecidableEq, Repr

/-- The wording of a fault in a rule. -/
def RuleError.message : RuleError → String
  | .slot rule index fault => s!"regla {rule}, token {index}: {fault.message}"
  | .antipattern rule number index fault =>
      s!"regla {rule}, antipatrón {number}, token {index}: {fault.message}"
  | .template rule fault => s!"regla {rule}: {fault.message}"
  | .emptyPattern rule => s!"regla {rule}: el patrón está vacío"

/-- A rule that is ready to be looked for. -/
structure Rule where
  id : String
  description : String
  category : String
  message : String
  shortMessage : String
  suggestions : List String
  enabled : Bool
  /-- How the words of slots are written, by the numbers of the slots. -/
  renderings : SortedMap Nat Rendering
  slots : List Slot
  antipatterns : List (List Slot)
  table : Option FeatureTable

/-- The description of a rule. -/
structure RuleSpec where
  id : String
  description : String
  category : String
  message : String
  shortMessage : String
  suggestions : List String
  renderings : List Rendering
  slots : List SlotSpec
  antipatterns : List (List SlotSpec)
  table : Option FeatureTable

/-- Checks that all features that a slot asks for are defined. -/
def checkFeatures (table : Option FeatureTable) : List FeatureFilter → Except PatternError Unit
  | [] => .ok ()
  | filter :: later =>
      match table with
      | none => .error (.unknownFeature ((filter.head?.map (·.1)).getD ""))
      | some defined => do
          defined.validate filter
          checkFeatures table later

/-- The slot of a description, with its features checked. -/
def compileSlot (table : Option FeatureTable) (spec : SlotSpec) : Except PatternError Slot := do
  let slot ← spec.compile
  checkFeatures table slot.filters
  .ok slot

/-- Checks that a slot refers to an earlier one, if it refers to any. -/
def checkReference (index : Nat) (slot : Slot) : Except PatternError Unit :=
  match slot.reference with
  | none => .ok ()
  | some reference =>
      if reference.slot = 0 ∨ index < reference.slot then
        .error (.invalidBackReference reference.slot)
      else .ok ()

/-- The slot of a description that has the number `index` in a pattern. -/
def compileNumbered (table : Option FeatureTable) (index : Nat) (spec : SlotSpec) :
    Except PatternError Slot := do
  let slot ← compileSlot table spec
  checkReference index slot
  .ok slot

/-- The results for elements that are numbered from `index`; the first fault is reported. -/
def compileEach {α β ε : Type} (compile : Nat → α → Except ε β) (index : Nat) :
    List α → Except ε (List β)
  | [] => .ok []
  | element :: later => do
      .ok ((← compile index element) :: (← compileEach compile (index + 1) later))

/-- The slots of a pattern. -/
def compilePattern (rule : String) (table : Option FeatureTable) (specs : List SlotSpec) :
    Except RuleError (List Slot) :=
  compileEach
    (fun index spec => (compileNumbered table index spec).mapError (.slot rule index)) 0 specs

/-- The slots of an antipattern. -/
def compileAntipattern (rule : String) (table : Option FeatureTable) (number : Nat)
    (specs : List SlotSpec) : Except RuleError (List Slot) :=
  compileEach
    (fun index spec =>
      (compileSlot table spec).mapError (.antipattern rule number index)) 0 specs

/-- Checks that references are to slots of a pattern with `count` slots. -/
def checkNumbers (count : Nat) : List Nat → Except PatternError Unit
  | [] => .ok ()
  | number :: later =>
      if number = 0 ∨ count < number then .error (.invalidBackReference number)
      else checkNumbers count later

/-- The renderings by slot; the last one for a slot counts. -/
def collectRenderings (count : Nat) (collected : SortedMap Nat Rendering) :
    List Rendering → Except PatternError (SortedMap Nat Rendering)
  | [] => .ok collected
  | rendering :: later =>
      let slot := rendering.slot
      let last := rendering.lastSlot.getD slot
      if slot = 0 ∨ count < slot ∨ last < slot ∨ count < last then
        .error (.invalidBackReference slot)
      else
        collectRenderings count (SortedMap.set slot rendering collected) later

namespace RuleSpec

/-- The description of a rule of which only the name is known. -/
def named (id : String) : RuleSpec :=
  ⟨id, "", "", "", "", [], [], [], [], none⟩

/-- The texts of a rule that may refer to slots. -/
def templates (spec : RuleSpec) : List String :=
  spec.message :: spec.shortMessage :: spec.suggestions

/-- The rule that a description asks for. -/
def compile (spec : RuleSpec) : Except RuleError Rule := do
  if spec.slots.isEmpty then .error (.emptyPattern spec.id)
  else
    let slots ← compilePattern spec.id spec.table spec.slots
    let antipatterns ← compileEach (compileAntipattern spec.id spec.table) 0 spec.antipatterns
    let numbers := spec.templates.flatMap fun text => (Template.ofText text).numbers
    (checkNumbers slots.length numbers).mapError (.template spec.id)
    let renderings ←
      (collectRenderings slots.length [] spec.renderings).mapError (.template spec.id)
    .ok {
      id := spec.id
      description := spec.description
      category := spec.category
      message := spec.message
      shortMessage := spec.shortMessage
      suggestions := spec.suggestions
      enabled := true
      renderings := renderings
      slots := slots
      antipatterns := antipatterns.filter (!·.isEmpty)
      table := spec.table }

end RuleSpec

namespace Rule

/-- How the word of a slot is written, if the rule says so. -/
def rendering? (rule : Rule) (slot : Nat) : Option Rendering :=
  SortedMap.find? slot rule.renderings

/-- For each slot that lists them, the forms of which a sentence must have one. -/
def formHints (rule : Rule) : List (List String) :=
  rule.slots.filterMap Slot.formHints

/-- For each slot that lists them, the headwords of which a sentence must have one. -/
def headwordHints (rule : Rule) : List (List String) :=
  rule.slots.filterMap Slot.headwordHints

end Rule

end PhraseRules
