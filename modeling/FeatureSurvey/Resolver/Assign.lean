import FeatureSurvey.Config.Basic
import FeatureSurvey.Error

/-!
# `Resolver/Assign.lean` — which detector answers which feature

Every detector claims the features it lists. Going through the claims in the order of
declaration gives the index of producers: a feature claimed by a second detector is an error,
unless the configuration lets the later one take over. A request is then assigned feature by
feature, in the order of the request and each feature once.
-/

set_option autoImplicit false

namespace FeatureSurvey

/-- Features with the names of the detectors that answer them. -/
structure FeatureIndex where
  producers : Table String
  deriving DecidableEq

/-- Every claim, in the order of declaration: the detector's name and the feature. -/
def Config.claims (c : Config) : List (String × String) :=
  c.detectors.flatMap fun d => d.features.map (d.name, ·)

namespace FeatureIndex

def empty : FeatureIndex := ⟨∅⟩

def producer? (index : FeatureIndex) (feature : String) : Option String :=
  index.producers.get? feature

def size (index : FeatureIndex) : Nat := index.producers.entries.length

def isEmpty (index : FeatureIndex) : Bool := index.producers.isEmpty

/-- Take in one claim. -/
def claim (mayTakeOver : Bool) (index : FeatureIndex) (detector feature : String) :
    Except SurveyError FeatureIndex :=
  match index.producer? feature with
  | none => .ok ⟨index.producers.insert feature detector⟩
  | some first =>
    if first = detector then .ok index
    else if mayTakeOver then .ok ⟨index.producers.insert feature detector⟩
    else .error (.claimedTwice feature first detector)

/-- Take in claims in order. -/
def claimAll (mayTakeOver : Bool) (index : FeatureIndex) :
    List (String × String) → Except SurveyError FeatureIndex
  | [] => .ok index
  | (detector, feature) :: rest =>
    match claim mayTakeOver index detector feature with
    | .ok index => claimAll mayTakeOver index rest
    | .error e => .error e

def ofConfig (c : Config) : Except SurveyError FeatureIndex :=
  claimAll c.allowDuplicateClaims empty c.claims

end FeatureIndex

/-- A requested feature and the detector that answers it. -/
structure Assignment where
  feature : String
  detector : DetectorSpec
  deriving DecidableEq

namespace Resolver

/-- The detector that answers a feature. -/
def detectorFor (c : Config) (index : FeatureIndex) (feature : String) :
    Except SurveyError DetectorSpec :=
  match index.producer? feature with
  | none => .error (.noProducer feature)
  | some producer =>
    match c.detector? producer with
    | none => .error (.config (.unindexedDetector producer))
    | some detector => .ok detector

/-- Assign what is left of a request; the features in `done` have been assigned before. -/
def assignFrom (c : Config) (index : FeatureIndex) (done : List String) :
    List String → Except SurveyError (List Assignment)
  | [] => .ok []
  | feature :: rest =>
    if done.contains feature then assignFrom c index done rest
    else
      match detectorFor c index feature with
      | .error e => .error e
      | .ok detector =>
        match assignFrom c index (feature :: done) rest with
        | .error e => .error e
        | .ok assignments => .ok (⟨feature, detector⟩ :: assignments)

/-- Assign each requested feature to a detector, or fail with the first that has none. -/
def assign (c : Config) (requested : List String) : Except SurveyError (List Assignment) :=
  match FeatureIndex.ofConfig c with
  | .error e => .error e
  | .ok index => assignFrom c index [] requested

/-- Keep the first detector of each name; those named in `seen` came before. -/
def distinctDetectors (seen : List String) : List DetectorSpec → List DetectorSpec
  | [] => []
  | d :: rest =>
    if seen.contains d.name then distinctDetectors seen rest
    else d :: distinctDetectors (d.name :: seen) rest

/-- The detectors that a request needs, each once, in the order of first need. -/
def resolve (c : Config) (requested : List String) : Except SurveyError (List DetectorSpec) :=
  (assign c requested).map fun assignments =>
    distinctDetectors [] (assignments.map (·.detector))

end Resolver

end FeatureSurvey
