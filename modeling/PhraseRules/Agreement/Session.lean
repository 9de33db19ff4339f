import PhraseRules.Agreement.Table

/-!
# Agreement of words

Words agree if one class of every feature can be chosen that all of them have.  The classes of a
word belong to its readings: a reading realizes the choices all of whose classes it has, a word
those of any of its readings.  A session holds the words compared so far and the choices that all
of them realize; adding a word gives a new session and leaves the old one as it is.
-/

namespace PhraseRules

/-- One class for every feature, by its number among those that count. -/
abbrev ClassChoice : Type :=
  List Nat

/-- A reading of a word that was added, with the choices that it realizes. -/
structure RealizedReading where
  index : Nat
  reading : Reading
  choices : List ClassChoice
deriving DecidableEq, Repr

/-- A word that was added to a session. -/
structure CommittedWord where
  position : Nat
  neutral : Bool
  readings : List RealizedReading
deriving DecidableEq, Repr

/-- A word with the readings by which it agrees with the others. -/
structure AgreedWord where
  position : Nat
  readings : List RealizedReading
deriving DecidableEq, Repr

/-- The words compared so far. -/
structure AgreementSession where
  features : List ResolvedFeature
  committed : List CommittedWord
  /-- The choices that all words realize; nothing while only neutral words were added. -/
  agreed : Option (List ClassChoice)

namespace ResolvedFeature

/-- The numbers of the classes that the reading belongs to. -/
def classesOf (feature : ResolvedFeature) (position : Position) (reading : Reading) : List Nat :=
  Slot.indicesFrom (fun entry => entry.2.acceptsReading reading position) 0 feature.classes

/-- The names of the classes that some reading of the position belongs to, sorted. -/
def candidates (feature : ResolvedFeature) (position : Position) : List String :=
  let candidates := feature.classes.filter fun entry =>
    position.readings.any fun reading => entry.2.acceptsReading reading position
  sortDistinct (candidates.map (·.1))

end ResolvedFeature

/-- The choices of classes that a reading realizes. -/
def choicesOf (position : Position) (reading : Reading) : List ResolvedFeature → List ClassChoice
  | [] => [[]]
  | feature :: later =>
      (feature.classesOf position reading).flatMap fun featureClass =>
        (choicesOf position reading later).map (featureClass :: ·)

namespace AgreementSession

/-- The session without words for the features of a filter. -/
def start (table : FeatureTable) (filter : FeatureFilter) :
    Except PatternError AgreementSession := do
  .ok ⟨← table.resolve filter, [], none⟩

/-- The classes that the readings of a position belong to, by feature. -/
def candidateClasses (session : AgreementSession) (position : Position) :
    List (String × List String) :=
  session.features.map fun feature => (feature.name, feature.candidates position)

/-- The choices that a reading realizes. -/
def choices (session : AgreementSession) (position : Position) (reading : Reading) :
    List ClassChoice :=
  choicesOf position reading session.features

/-- Whether the position could agree with the words so far. -/
def isSatisfiedBy (session : AgreementSession) (position : Position) : Bool :=
  position.readings.any fun reading =>
    match session.agreed with
    | none => !(session.choices position reading).isEmpty
    | some agreed => (session.choices position reading).any agreed.contains

/-- The readings with the given numbers, with the choices that they realize. -/
def realize (session : AgreementSession) (position : Position) (readings : List Nat) :
    List RealizedReading :=
  readings.filterMap fun index =>
    position.readings[index]?.map fun reading =>
      ⟨index, reading, session.choices position reading⟩

/-- Adds a word with the readings that have the given numbers. -/
def addBound (session : AgreementSession) (index : Nat) (position : Position)
    (readings : List Nat) : AgreementSession :=
  let realized := session.realize position readings
  let union := realized.flatMap (·.choices)
  { session with
    committed := session.committed ++ [⟨index, false, realized⟩]
    agreed := some (match session.agreed with
      | none => union
      | some agreed => agreed.filter union.contains) }

/-- Adds a word with all its readings. -/
def add (session : AgreementSession) (index : Nat) (position : Position) : AgreementSession :=
  session.addBound index position (List.range position.readings.length)

/-- Adds a word that neither limits the others nor is limited by them. -/
def addNeutral (session : AgreementSession) (index : Nat) (position : Position) :
    AgreementSession :=
  let all := position.readings.mapIdx fun number reading => ⟨number, reading, []⟩
  { session with committed := session.committed ++ [⟨index, true, all⟩] }

/-- Whether all words so far agree. -/
def isUnified (session : AgreementSession) : Bool :=
  match session.agreed with
  | none => true
  | some agreed => !agreed.isEmpty

/-- Whether the reading realizes a choice that all words realize. -/
def survives (session : AgreementSession) (reading : RealizedReading) : Bool :=
  match session.agreed with
  | none => false
  | some agreed => reading.choices.any agreed.contains

/-- The words so far with the readings by which they agree; a neutral word keeps them all. -/
def agreedWords (session : AgreementSession) : List AgreedWord :=
  session.committed.map fun word =>
    ⟨word.position, word.readings.filter fun reading => word.neutral || session.survives reading⟩

/-- The number of words so far. -/
def size (session : AgreementSession) : Nat :=
  session.committed.length

/-- Whether there are no words yet. -/
def isEmpty (session : AgreementSession) : Bool :=
  session.committed.isEmpty

end AgreementSession

end PhraseRules
